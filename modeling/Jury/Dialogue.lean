/-!
# Dialogues

A dialogue is a program that makes requests of a session and goes on with what it is answered. A
checker's logic and a valuer's callbacks are dialogues, so that a statement about all of them is a
statement about all values of one type.
-/

namespace Jury

/-- A program that makes requests of type `R`, is given answers of type `A`, and ends with a
value. -/
inductive Dialogue (R A α : Type) where
  | done (value : α)
  | ask (request : R) (next : A → Dialogue R A α)

namespace Dialogue

variable {R A α β : Type}

/-- Goes on with `f` where the first dialogue ends. -/
def bind : Dialogue R A α → (α → Dialogue R A β) → Dialogue R A β
  | done value, f => f value
  | ask request next, f => ask request fun answer => (next answer).bind f

instance : Monad (Dialogue R A) where
  pure := done
  bind := bind

def request (r : R) : Dialogue R A A :=
  ask r done

/-- Holds the dialogue with a session that answers each request by `answer`. -/
def run {S : Type} (answer : R → S → A × S) : Dialogue R A α → S → α × S
  | done value, s => (value, s)
  | ask request next, s =>
    let (a, s) := answer request s
    (next a).run answer s

end Dialogue

end Jury
