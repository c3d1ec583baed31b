import Jury.Text.Quoted
import Jury.Outcome

/-!
# Faults and their wording

What can go wrong between a judged program and its harness. Each fault is a cause; the wording of
all of them is here.
-/

namespace Jury

inductive IoFault where
  | brokenChannel
  | isDirectory
  | noSpace
  | notUtf8
  deriving DecidableEq, Repr

/-- What the system says of a failed read or write. -/
def IoFault.message : IoFault → String
  | brokenChannel => "channel is broken"
  | isDirectory => "Is a directory (os error 21)"
  | noSpace => "No space left on device (os error 28)"
  | notUtf8 => "stream did not contain valid UTF-8"

inductive Direction where
  | read
  | write
  deriving DecidableEq, Repr

def Direction.name : Direction → String
  | read => "read"
  | write => "write"

/-- Why a descriptor cannot be used. -/
inductive DescriptorFault where
  | negative (number : Int)
  | closed (number : Int)
  | notOpenFor (number : Int) (direction : Direction)
  | outOfRange (variableName : String) (number : Int)
  | unusable (variableName : String) (number : Int) (cause : DescriptorFault)
  deriving DecidableEq, Repr

/-- The wording of a descriptor fault; a fault inside another is quoted with its heading. -/
def DescriptorFault.message : DescriptorFault → String
  | negative n => "fd " ++ toString n ++ " is negative"
  | closed n => "fd " ++ toString n ++ " is not open: EBADF: Bad file number"
  | notOpenFor n direction => "fd " ++ toString n ++ " is not open for " ++ direction.name
  | outOfRange name n =>
    "var `" ++ name ++ "` holds fd `" ++ toString n ++ "`, which is out of range"
  | unusable name n cause =>
    "var `" ++ name ++ "` contains fd `" ++ toString n ++ "`: Descriptor error: " ++ cause.message

def Hex.Fault.message : Hex.Fault → String
  | character c => "unexpected character " ++ Text.quotedAlone c
  | oddLength => "Odd number of digits"

/-- Why a variable does not hold what it should. -/
inductive VariableFault where
  | missing (name : String)
  | notInteger (name value : String)
  | notWord (name : String) (value : Int)
  | notHex (name value : String) (cause : Hex.Fault)
  | hex (cause : Hex.Fault)
  deriving DecidableEq, Repr

def VariableFault.message : VariableFault → String
  | missing name => "var " ++ name ++ " not present"
  | notInteger name value =>
    "var `" ++ name ++ "` has value `" ++ value ++ "`, which is not integer"
  | notWord name value =>
    "var `" ++ name ++ "` has value `" ++ toString value ++
      "`, which is not a non-negative 32-bit integer"
  | notHex name value cause =>
    "var `" ++ name ++ "` contains '" ++ value ++ "', which is not hex: Environment error: " ++
      cause.message
  | hex cause => cause.message

/-- A message that does not follow the control protocol. -/
inductive ProtocolFault where
  | unknownOutcome (name : String)
  | unknownKind (name : String)
  | statusCode (code : String)
  | notNumber (what item : String)
  | notFlag (what item : String)
  | itemCount (what : String) (expected actual : Nat)
  | unknownTestParts (bits : UInt32)
  | unknownSubtaskParts (bits : UInt32)
  | unexpectedResponse (line : String)
  | unexpectedEnd (what : String)
  | closedBeforeCount
  | countNotNumber (line : String)
  | noTests
  | closedWhileOutstanding (outstanding : Nat)
  | resultOutOfRange (test tests : UInt32)
  | resultNotPending (test : UInt32)
  deriving DecidableEq, Repr

def ProtocolFault.message : ProtocolFault → String
  | unknownOutcome name => "unknown checker outcome `" ++ name ++ "`"
  | unknownKind name => "unknown status kind `" ++ name ++ "`"
  | statusCode code => "status code `" ++ code ++ "` must be a single non-empty token"
  | notNumber what item => what ++ ": `" ++ item ++ "` is not a number"
  | notFlag what item => what ++ " must be 0 or 1, got `" ++ item ++ "`"
  | itemCount what expected actual =>
    what ++ ": expected " ++ toString expected ++ " items, got " ++ toString actual
  | unknownTestParts bits =>
    "unknown test visibility flags 0x" ++ String.ofList (Hex.ofNat bits.toNat)
  | unknownSubtaskParts bits =>
    "unknown subtask visibility flags 0x" ++ String.ofList (Hex.ofNat bits.toNat)
  | unexpectedResponse line => "unexpected valuer response `" ++ line ++ "`"
  | unexpectedEnd what => "unexpected EOF, expected " ++ what
  | closedBeforeCount => "control input closed before test count"
  | countNotNumber line => "test count `" ++ line ++ "` is not a number"
  | noTests => "problem has no tests"
  | closedWhileOutstanding n => "control input closed with " ++ toString n ++ " tests outstanding"
  | resultOutOfRange test tests =>
    "result for test " ++ toString test ++ " is out of range 1..=" ++ toString tests
  | resultNotPending test =>
    "result for test " ++ toString test ++ " does not match a pending request"

/-- How far a valuer session has come. -/
inductive Stage where
  | awaitingInit
  | awaitingTestCount
  | awaitingBegin
  | running
  | finished
  deriving DecidableEq, Repr

def Stage.name : Stage → String
  | awaitingInit => "AwaitingInit"
  | awaitingTestCount => "AwaitingTestCount"
  | awaitingBegin => "AwaitingBegin"
  | running => "Running"
  | finished => "Finished"

/-- A call that the program at this end should not have made. -/
inductive ContractFault where
  | selectIn (stage : Stage)
  | liveScoreIn (stage : Stage)
  | finishIn (stage : Stage)
  | testOutOfRange (test tests : UInt32)
  | alreadyRequested (test : UInt32)
  | nothingSelected
  | stalled (test : UInt32)
  | generatorTwice
  | noGenerator
  /-- A scoring policy's own complaint. -/
  | policy (complaint : String)
  deriving DecidableEq, Repr

def ContractFault.message : ContractFault → String
  | selectIn stage => "select_next_test called in state " ++ stage.name
  | liveScoreIn stage => "set_live_score called in state " ++ stage.name
  | finishIn stage => "finish called in state " ++ stage.name
  | testOutOfRange test tests =>
    "test " ++ toString test ++ " is out of range 1..=" ++ toString tests
  | alreadyRequested test => "test " ++ toString test ++ " is already requested"
  | nothingSelected => "begin returned without selecting a test"
  | stalled test =>
    "on_test_end for test " ++ toString test ++ " neither selected a test nor finished"
  | generatorTwice => "global generator is constructed twice"
  | noGenerator =>
    "generator is requested, but it is not initialized yet. Was testgen::init() called?"
  | policy complaint => complaint

/-- Anything that a judged program can report to its harness. -/
inductive Fault where
  | io (cause : IoFault)
  | environment (cause : VariableFault)
  | descriptor (cause : DescriptorFault)
  /-- A seed of a wrong number of bytes. -/
  | seedLength (actual expected : Nat)
  | protocol (cause : ProtocolFault)
  | contract (cause : ContractFault)
  deriving DecidableEq, Repr

/-- The wording of a fault, headed by its kind. -/
def Fault.message : Fault → String
  | io cause => "IO error: " ++ cause.message
  | environment cause => "Environment error: " ++ cause.message
  | descriptor cause => "Descriptor error: " ++ cause.message
  | seedLength actual expected =>
    "Seed error: rand_seed has incorrect length (" ++ toString actual ++ " instead of " ++
      toString expected ++ ")"
  | protocol cause => "Protocol error: " ++ cause.message
  | contract cause => "Contract violation: " ++ cause.message

end Jury
