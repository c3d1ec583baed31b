import Jury.Control.Field

/-!
# Results of tests

What the harness tells a valuer: one line for each finished test.
-/

namespace Jury.Control

open Jury.Text (fields)

structure Notification where
  test : UInt32
  kind : StatusKind
  statusCode : String
  deriving DecidableEq, Repr

namespace Notification

def render (n : Notification) : String :=
  toString n.test ++ " " ++ n.kind.name ++ " " ++ n.statusCode ++ "\n"

def parse (line : String) : Except Fault Notification :=
  match fields line with
  | [test, kind, code] => do
    let test ← wordField "test id" test
    let kind ← kindField kind
    return { test, kind, statusCode := code }
  | items => .error (.protocol (.itemCount "test result" 3 items.length))

end Notification

end Jury.Control
