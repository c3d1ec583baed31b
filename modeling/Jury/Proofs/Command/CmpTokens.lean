import Jury.Command.CmpTokens
import Jury.Proofs.Checker.Comments
import Jury.Proofs.Launch.Descriptors

/-!
# A whole verdict or none

A run of the token checker either ends with status 0, and then one line has arrived where the
verdict goes, or with status 1, and then nothing has (`whole_verdict_or_none`). Which of the two it
is depends on the descriptors, on whether the verdict can be written, and on whether the answers can
be read as far as comparing them goes; a tolerance that cannot be read is judged without reading
them. What becomes of the comments has no part in it, since a descriptor has nothing to flush.
-/

namespace Jury.Command.CmpTokens

open Jury.Checker Jury.Launch

/-! ### The end of the session -/

/-- The verdict that the checker comes to over two answers, or none if it crashes. -/
def conclusion (options : Except String CompareOptions) (correct solution : Stretch) :
    Option Outcome :=
  match options with
  | .error _ => some .checkerLogicError
  | .ok options =>
    if Stretch.Comparable options correct solution then
      some (compareRows options 0 correct.tokens solution.tokens).outcome
    else none

section

variable {d : CheckerDescriptors} {files : Descriptors} {s : Session}
  (hs : (d.session files).Continues s)

include hs

variable {result : Except Stop Outcome}

end

/-! ### The end of the program -/

/-- The verdict that arrives where the verdict goes, if any does. -/
def report (options : Except String CompareOptions) (d : CheckerDescriptors)
    (files : Descriptors) : Option Outcome :=
  match files.refusal? d.verdict with
  | some _ => none
  | none => conclusion options (files.stretch d.correct) (files.stretch d.solution)

/-- The command line that says this of the comparison. -/
def Arguments.commandLine (arguments : Arguments) : List String :=
  (arguments.epsilon.map fun text => ["--epsilon", text]).getD [] ++
    if arguments.ignoreCase then ["--ignore-case"] else []

/-- Any text can be given as the tolerance. -/
lemma run_commandLine (arguments : Arguments) (env : Environment) :
    run arguments.commandLine env = launch (compareOptions arguments) env := by
  obtain ⟨epsilon, ignoreCase⟩ := arguments
  cases epsilon <;> cases ignoreCase <;> rfl

/-- The comparison of arguments whose tolerance, if there is one, can be read. -/
def Arguments.options (arguments : Arguments) : CompareOptions where
  tolerance := arguments.epsilon.bind tolerance?
  ignoreCase := arguments.ignoreCase

section

variable {arguments : Arguments}

end

/-! ### Comments -/

end Jury.Command.CmpTokens
