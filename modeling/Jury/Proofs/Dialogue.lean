import Jury.Dialogue
import Mathlib.Tactic.Common

/-!
# Dialogues with sessions that answer alike

Two sessions that answer every request alike, and go on doing so, cannot be told apart by any
dialogue (`run_simulates`): it makes the same requests of both, is given the same answers, and ends
with the same value.
-/

namespace Jury.Dialogue

variable {R A S T α : Type}

/-- The requests that a dialogue makes, in order, each with its answer. -/
def exchanges (answer : R → S → A × S) : Dialogue R A α → S → List (R × A)
  | done _, _ => []
  | ask request next, s =>
    (request, (answer request s).1) ::
      (next (answer request s).1).exchanges answer (answer request s).2

variable {answer : R → S → A × S} {answer' : R → T → A × T} {Related : S → T → Prop}

/-- Whether related sessions answer a request alike and stay related. -/
def Simulates (answer : R → S → A × S) (answer' : R → T → A × T) (Related : S → T → Prop) : Prop :=
  ∀ {s t}, Related s t → ∀ request,
    (answer request s).1 = (answer' request t).1 ∧
      Related (answer request s).2 (answer' request t).2

lemma run_simulates (h : Simulates answer answer' Related) (dialogue : Dialogue R A α) {s : S}
    {t : T} (hrelated : Related s t) :
    dialogue.exchanges answer s = dialogue.exchanges answer' t ∧
      (dialogue.run answer s).1 = (dialogue.run answer' t).1 ∧
      Related (dialogue.run answer s).2 (dialogue.run answer' t).2 := by
  induction dialogue generalizing s t with
  | done value => exact ⟨rfl, rfl, hrelated⟩
  | ask request next ih =>
    obtain ⟨hanswer, hnext⟩ := h hrelated request
    obtain ⟨hexchanges, hvalue, hlast⟩ := ih (answer' request t).1 hnext
    simp only [exchanges, run, hanswer]
    exact ⟨by rw [hexchanges], hvalue, hlast⟩

end Jury.Dialogue
