import Jury.Fault

/-!
# Output channels

A channel takes text and may fail: its health says, for each write and each flush in turn, whether
it goes wrong and how much of the text still gets through. A message of several texts is delivered
by as many writes and a flush, and the first of them that goes wrong ends it.
-/

namespace Jury

/-- A write or flush that goes wrong; a write does so after the first `taken` characters. -/
structure Breakage where
  cause : IoFault
  taken : Nat := 0
  deriving DecidableEq, Repr

inductive Operation where
  | write
  | flush
  deriving DecidableEq, Repr

/-- Which operations on a channel go wrong: `breakage op n` is what befalls `op` when `n`
operations came before. -/
structure Health where
  used : Nat := 0
  breakage : Operation → Nat → Option Breakage

namespace Health

def sound : Health :=
  { breakage := fun _ _ => none }

/-- Every write and flush fails. -/
def broken (cause : IoFault) : Health :=
  { breakage := fun _ _ => some { cause } }

/-- Every write fails, and there is nothing to flush. -/
def refusing (cause : IoFault) : Health :=
  { breakage := fun op _ => match op with
    | .write => some { cause }
    | .flush => none }

/-- What befalls the next operation, and the health after it. -/
def next (h : Health) (op : Operation) : Option Breakage × Health :=
  (h.breakage op h.used, { h with used := h.used + 1 })

end Health

/-- A channel: what has arrived at its other end, and its health. -/
structure Channel where
  text : String := ""
  health : Health := .sound

namespace Channel

/-- Writes a text. -/
def write (c : Channel) (text : String) : Except IoFault Unit × Channel :=
  match c.health.next .write with
  | (none, health) => (.ok (), { text := c.text ++ text, health })
  | (some b, health) =>
    (.error b.cause, { text := c.text ++ String.ofList (text.toList.take b.taken), health })

/-- Waits until everything written has arrived. -/
def flush (c : Channel) : Except IoFault Unit × Channel :=
  match c.health.next .flush with
  | (none, health) => (.ok (), { c with health })
  | (some b, health) => (.error b.cause, { c with health })

/-- Writes texts one after another, up to the first that cannot be written. -/
def writeAll (c : Channel) : List String → Except IoFault Unit × Channel
  | [] => (.ok (), c)
  | text :: texts =>
    match c.write text with
    | (.ok (), c) => c.writeAll texts
    | (.error cause, c) => (.error cause, c)

/-- Writes texts one after another and waits until they have arrived. -/
def deliver (c : Channel) (texts : List String) : Except IoFault Unit × Channel :=
  match c.writeAll texts with
  | (.ok (), c) => c.flush
  | (.error cause, c) => (.error cause, c)

end Channel

end Jury
