import Jury.Command.CmpTokens
import Jury.Command.Judging
import Jury.Command.Transcript

/-!
# The programs

The programs are started as `jury <program> <arguments>`. This layer finds out which descriptors
the variables name, hands everything to the program, and writes what comes of it. A valuer is led
through judging line by line, so that the harness is answered as it speaks.
-/

namespace Jury.Main

open Jury.Command Jury.Launch

/-- The variables that name descriptors. -/
def descriptorVariables : List String :=
  ["JJS_CORR", "JJS_SOL", "JJS_TEST", "JJS_CHECKER_OUT", "JJS_CHECKER_COMMENT",
    "JJS_VALUER_COMMENT_PUB", "JJS_VALUER_COMMENT_PRIV"]

/-- The values of the variables that are present. -/
def readVariables : IO (List (String × String)) :=
  descriptorVariables.filterMapM fun name => do
    return (← IO.getEnv name).map fun value => (name, value)

/-- The directions that a descriptor is open for, if it is open. -/
def readAccess (number : Int) : IO (Option Access) := do
  try
    let info ← IO.FS.readFile ("/proc/self/fdinfo/" ++ toString number)
    let flags := (info.splitOn "\n").find? (·.startsWith "flags:")
    return match flags.bind fun line => line.toList.getLast? with
      | some '0' => some .readOnly
      | some '1' => some .writeOnly
      | some '2' => some .readWrite
      | _ => none
  catch _ => return none

/-- Where the system shows a descriptor. -/
def path (number : Int) : String :=
  "/proc/self/fd/" ++ toString number

/-- An open descriptor, with what reading it brings. -/
def readDescriptor (number : Int) : IO (Option (Int × OpenFile)) := do
  match ← readAccess number with
  | none => return none
  | some .writeOnly => return some (number, { access := .writeOnly })
  | some access =>
    try
      let content ← IO.FS.readBinFile (path number)
      return some (number, { access, content := content.toList })
    catch _ => return some (number, { access, readFault := some .isDirectory })

/-- What is left of the standard input. -/
partial def readInput (input : IO.FS.Stream) (before : List UInt8) : IO (List UInt8) := do
  let bytes ← input.read 65536
  if bytes.isEmpty then return before
  readInput input (before ++ bytes.toList)

/-- The descriptors that the variables name and the standard ones. The standard input is read if
it is wanted or named. -/
def readDescriptors (settings : List (String × String)) (wanted : Bool) : IO Descriptors := do
  let named := settings.filterMap fun (_, value) => Text.signed? (1 <<< 31) (Text.trim value)
  let input ← if wanted || named.contains 0 then readInput (← IO.getStdin) [] else pure []
  let opened ← (named.eraseDups.filter (2 < ·)).filterMapM readDescriptor
  let standard := [(0, { access := .readOnly, content := input }), (1, { access := .writeOnly }),
    (2, { access := .writeOnly })]
  return { entries := standard ++ opened }

def readEnvironment (wanted : Bool) : IO Environment := do
  let settings ← readVariables
  let descriptors ← readDescriptors settings wanted
  return { lookup := fun name => settings.lookup name, descriptors }

def writeDescriptor (number : Int) (content : List UInt8) : IO Unit := do
  let bytes := ByteArray.mk content.toArray
  if number = 1 then
    (← IO.getStdout).write bytes
    (← IO.getStdout).flush
  else if number = 2 then (← IO.getStderr).write bytes
  else
    let handle ← IO.FS.Handle.mk (path number) .readWrite
    handle.write bytes
    handle.flush

/-- Writes what the descriptors hold after a program. -/
def finish (exit : Exit) : IO UInt32 := do
  for (number, file) in exit.files.entries do
    if file.access ≠ .readOnly ∧ !file.content.isEmpty then
      try writeDescriptor number file.content
      catch e =>
        IO.eprintln ("fatal error: failed to write: " ++ toString e)
        return 1
  return exit.status.toUInt32

/-- Writes what happened since `count` events had. -/
def writeEvents (d : ValuerDescriptors) (count : Nat) (history : List Valuer.Event) :
    IO Unit := do
  for event in (history.take (history.length - count)).reverse do
    for pipe in [Valuer.Pipe.control, .publicComments, .privateComments] do
      let text := event.text pipe
      if !text.isEmpty then
        try writeDescriptor (d.ofPipe pipe) (Utf8.encode text)
        catch _ => pure ()

/-- What the harness says next, or `none` for a blank line. -/
def hear (input : IO.FS.Stream) : IO (Option Valuer.Heard) := do
  try
    let line ← input.getLine
    if line.isEmpty then return some .ended
    return (Control.Line.ofBytes? 0 (Utf8.encode line)).map fun line => .line line.text
  catch _ => return some (.line none)

/-- Goes on with judging until it is over. -/
partial def judgeOn {σ : Type} (policy : Valuer.Scorer σ) (d : ValuerDescriptors)
    (input : IO.FS.Stream) (count : Nat) (run : Valuer.Run σ) : IO UInt32 := do
  writeEvents d count run.session.history
  let count := run.session.history.length
  match run.status with
  | .over (.ok ()) => return 0
  | .over (.error fault) =>
    IO.eprintln ("fatal error: " ++ fault.message)
    return 1
  | _ =>
    match ← hear input with
    | none => judgeOn policy d input count run
    | some heard =>
      judgeOn policy d input count (run.hear Valuer.Session.answer policy heard)

/-- A valuer that converses with the harness. -/
def converse {σ : Type} (name : String) (policy : Valuer.Scorer σ) (fresh : σ)
    (arguments : List String) : IO UInt32 := do
  let env ← readEnvironment false
  match (valuerSpec name).read arguments, ValuerDescriptors.resolve env with
  | .run _, .ok d =>
    let run := Valuer.Run.begin Valuer.Session.answer policy fresh (d.session env.descriptors)
    judgeOn policy d (← IO.getStdin) 0 run
  | _, _ => finish (runValuer name policy fresh arguments env)

/-- Runs the program that the first argument names. -/
def run : List String → IO UInt32
  | "cmp-tokens" :: rest => do finish (CmpTokens.run rest (← readEnvironment false))
  | "val-icpc" :: rest => converse "val-icpc" Valuer.Icpc.policy Valuer.Icpc.fresh rest
  | "val-partial" :: rest => converse "val-partial" Valuer.PartialCredit.policy 0 rest
  | "valuer-transcript" :: rest => do finish (Transcript.run rest (← readEnvironment true))
  | _ => do
    IO.eprintln "usage: jury cmp-tokens|val-icpc|val-partial|valuer-transcript [arguments]"
    return 2

end Jury.Main

/-- Runs the program that the first argument names. -/
def main (arguments : List String) : IO UInt32 :=
  Jury.Main.run arguments
