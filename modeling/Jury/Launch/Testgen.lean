import Jury.Launch.Environment
import Jury.Random.Generator

/-!
# Test generators

The session of a test generator: the number of the test to make, where to write it, and the
generator to make it with.
-/

namespace Jury.Launch

inductive TestOutput where
  /-- An opened stream on this descriptor. -/
  | file (descriptor : Int)
  /-- The number of a descriptor that is still the caller's. -/
  | number (descriptor : Int)
  deriving DecidableEq, Repr

def TestOutput.descriptor : TestOutput → Int
  | file n | number n => n

/-- The output of a test generator: a stream that is opened, or the number of a descriptor that
could be. -/
def TestOutput.resolve (env : Environment) (openOutput : Bool) : Except Fault TestOutput :=
  if openOutput then (env.stream "JJS_TEST" .write).map .file
  else (env.descriptor "JJS_TEST" .write).map .number

structure TestgenOptions where
  openOutput : Bool := true
  width : SeedWidth := .full
  deriving DecidableEq, Repr

/-- What a test generator is given. -/
structure TestgenSession where
  test : UInt32
  output : TestOutput
  seed : Seed

/-- The session of a test generator: its test, its output and its seed are resolved in this
order. -/
def TestgenSession.resolve (env : Environment) (options : TestgenOptions) :
    Except Fault TestgenSession := do
  let test ← env.word "JJS_TEST_ID"
  let output ← TestOutput.resolve env options.openOutput
  let bytes ← env.hexBytes "JJS_RANDOM_SEED"
  let seed ← Seed.ofBytes options.width bytes
  return { test, output, seed }

/-- The descriptors that are open by the time resolving ends: the output, if it was come to and is
to be opened. -/
def TestgenSession.opened (env : Environment) (options : TestgenOptions) : List Int :=
  match env.word "JJS_TEST_ID" with
  | .ok _ => if options.openOutput then env.opened [("JJS_TEST", .write)] else []
  | .error _ => []

/-- The session's generator, before any draw. -/
def TestgenSession.generator (s : TestgenSession) : Generator :=
  .ofSeed s.seed

end Jury.Launch
