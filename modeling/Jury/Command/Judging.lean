import Jury.Command.Exit
import Jury.Valuer.Icpc
import Jury.Valuer.PartialCredit

/-!
# Valuers as programs

A valuer hears the harness on the standard input and answers it on the standard output.
-/

namespace Jury.Command

open Jury.Launch Jury.Valuer

/-- The command line of a valuer, which has no options. -/
def valuerSpec (name : String) : Spec where
  name
  versionName := "jtl"
  options := []

/-- Judges with a policy at the descriptors that the environment names. -/
def launchValuer {σ : Type} (policy : Scorer σ) (fresh : σ) (env : Environment) : Exit :=
  match ValuerDescriptors.resolve env with
  | .error fault =>
    .fatal fault.message (env.close (env.opened ValuerDescriptors.wanted)).descriptors
  | .ok d =>
    let input := ((env.descriptors.get? 0).map OpenFile.rest).getD []
    let (run, _) := judge Session.answer policy fresh (d.session env.descriptors) input
    let files := d.settle env.descriptors run.session.history
    match run.status with
    | .over (.error fault) => .fatal fault.message files
    | _ => ⟨0, files⟩

def runValuer {σ : Type} (name : String) (policy : Scorer σ) (fresh : σ)
    (arguments : List String) (env : Environment) : Exit :=
  match (valuerSpec name).read arguments with
  | .inquiry inquiry => .inquiry (valuerSpec name) inquiry env.descriptors
  | .fault fault => .usage (valuerSpec name) fault env.descriptors
  | .run _ => launchValuer policy fresh env

def runIcpc : List String → Environment → Exit :=
  runValuer "val-icpc" Icpc.policy Icpc.fresh

def runPartialCredit : List String → Environment → Exit :=
  runValuer "val-partial" PartialCredit.policy 0

end Jury.Command
