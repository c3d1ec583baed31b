import Jury.Launch.Station
import Jury.Launch.Testgen

/-!
# Programs in the making

A program has at most one generator that all of its parts share, filled in once, and at most one
checker session. Setting up a test generator fills the shared generator with a copy of the
session's own. The descriptors are read and written as the program goes, so that a checker which
was given one descriptor for a stream and for a channel finds them where the last use left them.
-/

namespace Jury.Launch

/-- The shared generator as a source of words: it is dry until it is filled in. -/
instance : RandomSource (Option Generator) where
  next?
    | none => none
    | some g => (RandomSource.next? g).map fun (word, g) => (word, some g)
  horizon
    | none => 0
    | some g => RandomSource.horizon g

/-- What a program has set up. -/
structure Program where
  env : Environment
  /-- The shared generator. -/
  generator : Option Generator := none
  /-- The test generator's session and its own generator, until the test is written. -/
  testgen : Option (TestgenSession × Generator) := none
  /-- Whether a checker was ever set up, even in vain. -/
  checkerStarted : Bool := false
  /-- The checker's descriptors, and the bytes of each stream that are at hand. -/
  checker : Option (CheckerDescriptors × Checker.PerStream (List UInt8)) := none

namespace Program

/-- Fills in the shared generator. -/
def install (p : Program) (g : Generator) : Except Fault Unit × Program :=
  match p.generator with
  | some _ => (.error (.contract .generatorTwice), p)
  | none => (.ok (), { p with generator := some g })

def withGenerator {α : Type} (p : Program) (use : Generator → α × Generator) :
    Except Fault α × Program :=
  match p.generator with
  | none => (.error (.contract .noGenerator), p)
  | some g =>
    let (value, g) := use g
    (.ok value, { p with generator := some g })

/-- Draws from the shared generator. Drawing a word before there is a generator is the program's
fault; a draw that fails before it takes a word fails in its own way. -/
def drawShared {α : Type} (p : Program)
    (draw : Option Generator → Except DrawFault α × Option Generator) :
    Except Fault (Except DrawFault α) × Program :=
  match draw p.generator with
  | (.error .exhausted, _) => (.error (.contract .noGenerator), p)
  | (result, generator) => (.ok result, { p with generator })

def close (p : Program) (numbers : List Int) : Program :=
  { p with env := p.env.close numbers }

def startTestgen (p : Program) (options : TestgenOptions) :
    Except Fault TestgenSession × Program :=
  match TestgenSession.resolve p.env options with
  | .error fault => (.error fault, p.close (TestgenSession.opened p.env options))
  | .ok session =>
    match p.install session.generator with
    | (.error fault, p) => (.error fault, p)
    | (.ok (), p) => (.ok session, { p with testgen := some (session, session.generator) })

/-- Writes the test and closes its output, if there is a test generator. Tells whether the write
went well. -/
def writeTest (p : Program) (bytes : List UInt8) : Option (Bool × Program) :=
  p.testgen.map fun (session, _) =>
    let number := session.output.descriptor
    let files := p.env.descriptors
    (files.accepts number bytes,
      { p with
        testgen := none
        env := { p.env with descriptors := (files.write number bytes).close [number] } })

/-- Sets up the checker. Gives the message of the fault, if there is one. -/
def startChecker (p : Program) : Except String Unit × Program :=
  if p.checkerStarted then (.error Checker.Crash.startedTwice.message, p)
  else
    let p := { p with checkerStarted := true }
    match CheckerDescriptors.resolve p.env with
    | .error fault => (.error fault.message, p.close (p.env.opened CheckerDescriptors.wanted))
    | .ok d => (.ok (), { p with checker := some (d, ⟨[], [], []⟩) })

/-- Lets the checker's session do something at its descriptors as they stand, if there is one. -/
def withChecker {α : Type} (p : Program) (use : Checker.Session → α × Checker.Session) :
    Option (α × Program) :=
  p.checker.map fun (d, held) =>
    let files := p.env.descriptors
    let (value, s) := use { d.session files with held }
    (value,
      { p with checker := some (d, s.held), env := { p.env with descriptors := d.settle s files } })

end Program

end Jury.Launch
