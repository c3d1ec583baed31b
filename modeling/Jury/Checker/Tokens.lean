import Jury.Checker.Compare
import Jury.Checker.Session

/-!
# The token checker

The token checker walks the correct answer and the contestant's answer in lockstep; the first pair
that does not match, or the first token without a partner, makes the answer wrong.
-/

namespace Jury.Checker

/-! ### Reading makes a session shorter -/

/-- The number of bytes of all streams that are at hand or to come. -/
def Session.size (s : Session) : Nat :=
  s.held.total List.length + s.sources.total Delivery.sizes

@[simp]
theorem Session.size_comment (s : Session) (text : String) : (s.comment text).size = s.size :=
  rfl

theorem Session.size_setReader (s : Session) (stream : Stream) (r : TokenReader) :
    (s.setReader stream r).size + (s.reader stream).size = s.size + r.size := by
  have hheld := s.held.total_set List.length stream r.held
  have hsource := s.sources.total_set Delivery.sizes (s.origin.get stream) r.source
  simp only [size, setReader, reader, TokenReader.size] at *
  omega

theorem Session.size_nextToken_le (s : Session) (stream : Stream) :
    (s.nextToken stream).2.size ≤ s.size := by
  have hle := (s.reader stream).size_next_le
  have hset := s.size_setReader stream (s.reader stream).next.2
  rw [nextToken]
  split <;> simp_all <;> omega

theorem Session.size_nextToken_lt {s : Session} {stream : Stream} {token : String}
    (h : (s.nextToken stream).1 = .ok (some token)) : (s.nextToken stream).2.size < s.size := by
  have hset := s.size_setReader stream (s.reader stream).next.2
  rw [nextToken] at h ⊢
  split at h
  · rename_i t r hr
    obtain rfl : t = some token := by simpa using h
    have hlt : (s.reader stream).next.2.size < (s.reader stream).size :=
      TokenReader.size_next_lt (by rw [hr])
    simp_all
    omega
  · simp at h

/-! ### The walk -/

/-- Compares the rest of the two answers, of which `position` tokens matched. -/
def walkTokens (options : CompareOptions) (position : Nat) (s : Session) :
    Except Stop Outcome × Session :=
  match _h : s.nextToken .correct with
  | (.error stop, s) => (.error stop, s)
  | (.ok expected, s₁) =>
    match _h₁ : s₁.nextToken .solution with
    | (.error stop, s) => (.error stop, s)
    | (.ok actual, s₂) =>
      match expected, actual with
      | none, none => (.ok .ok, s₂.comment ("success: " ++ toString position ++ " tokens"))
      | some expected, none =>
        (.ok .wrongAnswer,
          (s₂.comment
            ("error: early EOF in actual answer on position " ++ toString position)).comment
            ("note: next expected token was " ++ expected))
      | none, some actual =>
        (.ok .wrongAnswer,
          (s₂.comment ("error: actual answer contains additional tokens, starting from " ++
            toString position)).comment
            ("note: next actual token was " ++ actual))
      | some expected, some actual =>
        if tokensMatch options expected actual then walkTokens options (position + 1) s₂
        else
          (.ok .wrongAnswer,
            (s₂.comment ("error: token mismatch on position " ++ toString position)).comment
              ("note: expected " ++ expected ++ ", got " ++ actual))
termination_by s.size
decreasing_by
  have hlt : (s.nextToken .correct).2.size < s.size := Session.size_nextToken_lt (by rw [_h])
  have hle := Session.size_nextToken_le s₁ .solution
  rw [_h] at hlt
  rw [_h₁] at hle
  exact Nat.lt_of_le_of_lt hle hlt

def checkTokens (options : CompareOptions) (s : Session) : Except Stop Outcome × Session :=
  walkTokens options 0 s

end Jury.Checker
