import Jury.Proofs.Valuer.Rules
import Jury.Valuer.Icpc

/-!
# Judging does not look ahead

What a harness says later does not change what was written before: judging the first lines writes
the beginning of what judging all of them writes. If judging was over by then, nothing of what
follows is read at all, and whatever it is makes no difference (`judge_append`).
-/

namespace Jury.Valuer

open Jury.Control

variable {σ : Type}

/-! ### What is written stays written -/

lemma writtenText_append (pipe : Pipe) (newer older : List Event) :
    writtenText pipe (newer ++ older) = writtenText pipe older ++ writtenText pipe newer := by
  induction newer with
  | nil => exact String.append_empty.symm
  | cons event newer ih => rw [List.cons_append, writtenText, ih, writtenText, String.append_assoc]

lemma Session.exists_written_of_suffix {s s' : Session} (h : s.history <:+ s'.history)
    (pipe : Pipe) : ∃ rest, s'.written pipe = s.written pipe ++ rest := by
  obtain ⟨newer, hnewer⟩ := h
  refine ⟨writtenText pipe newer, ?_⟩
  rw [Session.written, ← hnewer, writtenText_append]
  rfl

lemma Effect.history_suffix {s s' : Session} {request : Request} {result : Except Fault Unit}
    (h : Effect s request result s') : s.history <:+ s'.history := by
  cases h with
  | refused request fault => exact List.suffix_rfl
  | kept log => exact List.suffix_rfl
  | _ => exact List.suffix_cons _ _

/-- A step forgets nothing that happened before it. -/
lemma Move.history_suffix {step : Step} (h : Move step) :
    step.before.history <:+ step.after.history := by
  cases h with
  | asked hperform =>
    cases attempt_of_perform hperform with
    | settled heffect hdelivers => exact heffect.history_suffix
    | torn hmessage cause htext count hopen hnot => exact List.suffix_cons _ _
  | ruled hrule hcause =>
    cases hrule with
    | asked heffect => exact heffect.history_suffix
    | testEnded s result hpending => exact List.suffix_cons _ _
    | _ => exact List.suffix_rfl

lemma Leads.history_suffix {s s' : Session} {steps : List Step} (h : Leads s steps s')
    (hmoves : ∀ step ∈ steps, Move step) : s.history <:+ s'.history :=
  (h.invariant (P := fun t => s.history <:+ t.history) List.suffix_rfl
    fun step hmem hbefore => hbefore.trans (hmoves step hmem).history_suffix).2

/-! ### Whether judging meets the end of the input -/

/-- What the harness says by the lines of a byte string. -/
def heardLines (input : List UInt8) : List Heard :=
  (Line.all input).map fun line => .line line.text

/-- Whether judging goes on after all lines, so that it hears that there are no more. -/
def MeetsEnd (policy : Scorer σ) (state : σ) (session : Session) (input : List UInt8) : Prop :=
  ∀ result, (judgeUntil policy state session (heardLines input)).status ≠ .over result

section

variable (policy : Scorer σ) {run : Run σ}

/-- That there are no more lines changes nothing but the status. -/
lemma hear_ended (run : Run σ) :
    (run.hear Session.answer policy .ended).session = run.session ∧
      run.hearSteps policy .ended = [] := by
  rw [Run.hear_eq_take, Run.hearSteps]
  rcases hstatus : run.status with _ | _ | result <;> simp only [Run.turn, hstatus] <;>
    exact ⟨rfl, rfl⟩

lemma judge_eq_hear_ended (state : σ) (session : Session) (input : List UInt8) :
    (judge Session.answer policy state session input).1 =
      (judgeUntil policy state session (heardLines input)).hear Session.answer policy .ended := by
  rw [judge_eq_judgeUntil]
  exact judgeUntil_append policy state session (heardLines input) [.ended]

lemma stepsUntil_heards (state : σ) (session : Session) (input : List UInt8) :
    stepsUntil policy state session (heards input) =
      stepsUntil policy state session (heardLines input) := by
  rw [heards, stepsUntil_append, Run.listenSteps, (hear_ended policy _).2]
  exact List.append_nil _

/-- What is heard behind a line comes behind what was heard before. -/
lemma exists_heards_append {input : List UInt8} (h : EndsWithLine input) (more : List UInt8) :
    ∃ rest, heards (input ++ more) = heardLines input ++ rest := by
  obtain ⟨size, hlines⟩ := Line.all_append h more
  refine ⟨(Line.allFrom size [] more).map (fun line => .line line.text) ++ [.ended], ?_⟩
  rw [heards, hlines, List.map_append, List.append_assoc]
  rfl

lemma status_hear_ended (hnot : ∀ result, run.status ≠ .over result) :
    (run.hear Session.answer policy .ended).status =
        .over (.error (.protocol .closedBeforeCount)) ∨
      (run.hear Session.answer policy .ended).status =
        .over (.error (.protocol (.closedWhileOutstanding run.session.pending.length))) := by
  rw [Run.hear_eq_take]
  rcases hstatus : run.status with _ | _ | result
  · simp only [Run.turn, hstatus]
    exact .inl rfl
  · simp only [Run.turn, hstatus]
    exact .inr rfl
  · exact absurd hstatus (hnot result)

/-- Judging that goes on after the last line leaves nothing unread. -/
lemma unread_of_not_over {lines : List Line} (left : Nat)
    (hnot : ∀ result, (run.listen policy (lines.map fun line => .line line.text)).status ≠
      .over result) :
    (run.hearAll Session.answer policy left lines).2 = 0 := by
  induction lines generalizing run left with
  | nil =>
    rw [Run.hearAll]
    rcases hstatus : run.status with _ | _ | result
    · rfl
    · rfl
    · exact absurd hstatus (hnot result)
  | cons line lines ih =>
    rw [Run.hearAll]
    rcases hstatus : run.status with _ | _ | result
    · exact ih _ hnot
    · exact ih _ hnot
    · rw [Run.listen_of_over policy hstatus] at hnot
      exact absurd hstatus (hnot result)

/-- Lines that come when judging is over stay unread. -/
lemma hearAll_append_of_over {lines : List Line} (more : List Line) {left : Nat} (extra : Nat)
    (hleft : Line.totalSize lines ≤ left) {result : Except Fault Unit}
    (hover : (run.listen policy (lines.map fun line => .line line.text)).status = .over result) :
    run.hearAll Session.answer policy (left + extra) (lines ++ more) =
      ((run.hearAll Session.answer policy left lines).1,
        (run.hearAll Session.answer policy left lines).2 + extra) := by
  induction lines generalizing run left with
  | nil =>
    have hstatus : run.status = .over result := hover
    cases more with
    | nil => simp only [List.append_nil, Run.hearAll, hstatus]
    | cons line more => simp only [List.nil_append, Run.hearAll, hstatus]
  | cons line lines ih =>
    have hrest : Line.totalSize lines ≤ left - line.size := Nat.le_sub_of_add_le' hleft
    have hextra : left + extra - line.size = left - line.size + extra :=
      Nat.sub_add_comm (Nat.le_of_add_right_le hleft)
    rw [List.cons_append, Run.hearAll, Run.hearAll, hextra]
    rcases hstatus : run.status with _ | _ | result'
    · exact ih hrest hover
    · exact ih hrest hover
    · rfl

end

/-! ### Causality -/

/-- **Judging does not look ahead.** Let what was heard end with a line. Then whatever comes behind
it, each channel carries on from what judging wrote without it, by the same steps of the policy and
the driver. If judging did not meet the end of what was heard, it is the same with what comes
behind, all of which stays unread. If it did, then it ended with one of the two faults that say so.
-/
theorem judge_append (policy : Scorer σ) (state : σ) (health : PerPipe Health)
    {heard : List UInt8} (hheard : EndsWithLine heard) (more : List UInt8) :
    let short := judge Session.answer policy state { health } heard
    let long := judge Session.answer policy state { health } (heard ++ more)
    (∀ pipe, ∃ rest, long.1.session.written pipe = short.1.session.written pipe ++ rest) ∧
      stepsUntil policy state { health } (heards heard) <+:
        stepsUntil policy state { health } (heards (heard ++ more)) ∧
      (¬MeetsEnd policy state { health } heard → long = (short.1, short.2 + more.length)) ∧
      (MeetsEnd policy state { health } heard →
        short.2 = 0 ∧
          (short.1.status = .over (.error (.protocol .closedBeforeCount)) ∨
            ∃ outstanding, short.1.status =
              .over (.error (.protocol (.closedWhileOutstanding outstanding))))) := by
  intro short long
  set run := judgeUntil policy state { health } (heardLines heard)
  have hshort : short.1 = run.hear Session.answer policy .ended :=
    judge_eq_hear_ended policy state _ heard
  obtain ⟨rest, hheards⟩ := exists_heards_append hheard more
  have hlong : long.1 = run.listen policy rest := by
    rw [judge_eq_judgeUntil, hheards, judgeUntil_append]
  have hsteps : stepsUntil policy state { health } (heards (heard ++ more)) =
      stepsUntil policy state { health } (heards heard) ++ run.listenSteps policy rest := by
    rw [hheards, stepsUntil_append, stepsUntil_heards]
  refine ⟨fun pipe => ?_, ⟨_, hsteps.symm⟩, fun hnot => ?_, fun hmeets => ⟨?_, ?_⟩⟩
  · -- hearing that there are no more lines writes nothing, and the steps after them only add
    rw [hshort, hlong]
    refine Session.exists_written_of_suffix ?_ pipe
    rw [(hear_ended policy run).1]
    refine (leads_listen policy run rest).history_suffix fun step hmem => ?_
    exact move_stepsUntil policy state { health } rfl _ step
      (hsteps ▸ List.mem_append_right _ hmem)
  · obtain ⟨result, hover⟩ := not_forall_not.mp hnot
    obtain ⟨size, hlines⟩ := Line.all_append hheard more
    change judge Session.answer policy state { health } (heard ++ more) = _
    rw [judge, hlines, List.length_append]
    refine hearAll_append_of_over policy _ _ ?_ hover
    exact (Line.totalSize_allFrom_le 0 [] heard).trans_eq (Nat.zero_add _)
  · exact unread_of_not_over policy _ hmeets
  · rw [hshort]
    exact (status_hear_ended policy hmeets).imp_right fun h => ⟨_, h⟩

/-- Bytes that are not even UTF-8 make no difference behind the last result. -/
theorem judge_append_finished :
    let heard := Utf8.encode "1\n1 Accepted OK\n"
    let long := judge Session.answer Icpc.policy Icpc.fresh {} (heard ++ [0xFF, 0x0A, 0xFE])
    EndsWithLine heard ∧ ¬MeetsEnd Icpc.policy Icpc.fresh {} heard ∧
      long.1.session.isFinished = true ∧ long.2 = 3 := by
  intro heard long
  have hends : EndsWithLine heard :=
    .inr ⟨Utf8.encode "1\n1 Accepted OK", Utf8.encode_append_lf "1\n1 Accepted OK"⟩
  have hlines : heardLines heard = [.line (some "1"), .line (some "1 Accepted OK")] := by
    decide +kernel
  have hnot : ¬MeetsEnd Icpc.policy Icpc.fresh {} heard := by
    intro hmeets
    refine hmeets (.ok ()) ?_
    rw [hlines]
    rfl
  obtain ⟨-, -, hsame, -⟩ :=
    judge_append Icpc.policy Icpc.fresh ⟨.sound, .sound, .sound⟩ hends [0xFF, 0x0A, 0xFE]
  have hlong : long = _ := hsame hnot
  have hshort :
      (judge Session.answer Icpc.policy Icpc.fresh {} heard).1.session.isFinished = true ∧
        (judge Session.answer Icpc.policy Icpc.fresh {} heard).2 = 0 := by
    decide +kernel
  refine ⟨hends, hnot, ?_, ?_⟩
  · rw [hlong]
    exact hshort.1
  · rw [hlong]
    exact congrArg (· + 3) hshort.2

end Jury.Valuer
