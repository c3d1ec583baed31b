import Jury.Checker.Session
import Jury.Proofs.Channel

/-!
# How a checker session ends

A session ends with the verdict that its logic reached, unless the logic crashed. What is written
as a verdict is read back as that verdict.
-/

namespace Jury

/-- What is written as a verdict is read back. -/
theorem Verdict.parse_render (outcome : Outcome) :
    Verdict.parse (Verdict.render outcome) = .ok outcome := by
  cases outcome <;> decide

namespace Checker

namespace Session

variable {s : Session} {result : Except Stop Outcome} {outcome : Outcome}

lemma evaluate_eq (s : Session) (logic : Logic) :
    s.evaluate logic =
      (logic.run Session.answer s).2.finish (logic.run Session.answer s).1 :=
  rfl

lemma finish_of_reached (h : reached result = .ok outcome) :
    s.finish result =
      (match (s.conclude outcome).1 with
        | .ok () => .ok outcome
        | .error cause => .error (.verdictUnwritable cause), (s.conclude outcome).2) := by
  rw [finish, h]
  dsimp only
  generalize s.conclude outcome = concluded
  obtain ⟨written, last⟩ := concluded
  cases written <;> rfl

lemma finish_of_crashed {crash : Crash} (h : reached result = .error crash) :
    s.finish result = (.error crash, s) := by
  rw [finish, h]

lemma conclude_of_isSound (hcomments : s.comments.health.IsSound)
    (hverdict : s.verdict.health.IsSound) (outcome : Outcome) :
    (s.conclude outcome).1 = .ok () ∧
      (s.conclude outcome).2.verdict.text = s.verdict.text ++ Verdict.render outcome := by
  have hwritten : (⟨s.verdict.text ++ Verdict.render outcome, s.verdict.health.after 1⟩ :
      Channel).health.IsSound := hverdict
  simp only [conclude, Channel.flush_of_isSound hcomments, Channel.write_of_isSound _ hverdict]
  rw [Channel.flush_of_isSound hwritten]
  exact ⟨rfl, rfl⟩

end Session

end Checker

end Jury
