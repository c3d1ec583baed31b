import Jury.Proofs.Valuer.Matching

/-!
# The control stream of a session

What a session writes on a sound control channel is read back as the requests that it granted, in
order: requests for tests of the problem and live scores, and at most one final message, which is
the last. A request that is refused changes nothing.
-/

namespace Jury.Valuer

open Jury.Control

variable {σ : Type}

/-- Whether a message ends the session. -/
def isFinal : Response → Bool
  | .finish _ _ _ => true
  | _ => false

/-- The judge log of a step that asks for the end of the session. -/
def Step.log? (step : Step) : Option JudgeLog :=
  match step.cause with
  | .asked (.finish _ _ log) _ => some log
  | _ => none

/-- Whether a message may be sent while the problem has so many tests. -/
def IsSendable (tests : UInt32) : Response → Prop
  | .test id _ => 1 ≤ id ∧ id ≤ tests
  | .liveScore _ => True
  | .finish _ _ log => log.validate = .ok ()

/-- What holds of the messages of a session at every point of judging. -/
structure Session.Orderly (s : Session) : Prop where
  sendable : ∀ r ∈ s.sent, IsSendable s.tests r
  unfinished : ∀ r ∈ s.sent.dropLast, isFinal r = false
  finished : s.stage = .finished ↔ ∃ r, s.sent.getLast? = some r ∧ isFinal r = true

namespace Session

lemma Orderly.congr {s s' : Session} (hs : s.Orderly) (hsent : s'.sent = s.sent)
    (htests : s'.tests = s.tests) (hstage : s'.stage = .finished ↔ s.stage = .finished) :
    s'.Orderly where
  sendable := by
    rw [hsent, htests]
    exact hs.sendable
  unfinished := hsent ▸ hs.unfinished
  finished := by rw [hstage, hsent, hs.finished]

/-- While the session is open, nothing that was sent is final. -/
lemma Orderly.isFinal_eq_false {s : Session} (hs : s.Orderly) (hopen : s.isOpen = true) :
    ∀ r ∈ s.sent, isFinal r = false := by
  have hstage : ¬s.stage = .finished := by
    rcases isOpen_iff.mp hopen with h | h <;> rw [h] <;> exact nofun
  rw [hs.finished] at hstage
  intro r hmem
  rcases List.eq_nil_or_concat s.sent with hnil | ⟨rs, last, hconcat⟩
  · rw [hnil] at hmem
    cases hmem
  · rw [hconcat, List.concat_eq_append] at hmem
    rcases List.mem_append.mp hmem with hmem | hmem
    · refine hs.unfinished r ?_
      rwa [hconcat, List.concat_eq_append, List.dropLast_concat]
    · rw [List.mem_singleton.mp hmem]
      by_contra hfinal
      refine hstage ⟨last, ?_, by simpa using hfinal⟩
      rw [hconcat, List.concat_eq_append, List.getLast?_concat]

/-- An open session may send one more message. -/
lemma Orderly.send {s s' : Session} (hs : s.Orderly) (hopen : s.isOpen = true) {r : Response}
    (hsent : s'.sent = s.sent ++ [r]) (htests : s'.tests = s.tests)
    (hr : IsSendable s.tests r) (hstage : s'.stage = .finished ↔ isFinal r = true) :
    s'.Orderly where
  sendable := by
    rw [hsent, htests]
    intro r' hmem
    rcases List.mem_append.mp hmem with hmem | hmem
    · exact hs.sendable r' hmem
    · exact List.mem_singleton.mp hmem ▸ hr
  unfinished := by
    rw [hsent, List.dropLast_concat]
    exact hs.isFinal_eq_false hopen
  finished := by
    rw [hstage, hsent, List.getLast?_concat]
    constructor
    · exact fun hfinal => ⟨r, rfl, hfinal⟩
    · rintro ⟨r', hr', hfinal⟩
      cases hr'
      exact hfinal

end Session

lemma Effect.orderly {s s' : Session} {request : Request} {result : Except Fault Unit}
    (h : Effect s request result s') (hs : s.Orderly) : s'.Orderly := by
  have hsent := h.sent_eq
  cases h with
  | refused fault => exact hs
  | selected test live hopen hfirst hlast hnew =>
    refine hs.send hopen hsent rfl ⟨hfirst, hlast⟩ ?_
    rcases Session.isOpen_iff.mp hopen with h | h <;> simp [Session.afterSend, h, isFinal]
  | scored score hopen =>
    refine hs.send hopen hsent rfl trivial ?_
    rcases Session.isOpen_iff.mp hopen with h | h <;> simp [Session.afterSend, h, isFinal]
  | finished score full log hopen hlog =>
    exact hs.send hopen hsent rfl hlog ⟨fun _ => rfl, fun _ => rfl⟩
  | commented audience text health written hcontrol =>
    exact hs.congr (hsent.trans (List.append_nil _)) rfl Iff.rfl
  | kept log => exact hs.congr rfl rfl Iff.rfl

/-- Every step keeps the messages in order. -/
lemma Rule.orderly {step : Step} (h : Rule step) (hbalanced : step.before.Balanced)
    (hs : step.before.Orderly) : step.after.Orderly := by
  have hsent := h.sent_eq
  cases h with
  | asked heffect => exact heffect.orderly hs
  | prepare s => exact hs
  | start s tests hstage =>
    -- the number of tests changes here, so nothing may have been sent before
    have hnil : s.sent = [] := (hbalanced.early (.inr hstage)).2
    have hnil' : ({ s with tests, stage := .awaitingBegin } : Session).sent = [] := hnil
    refine ⟨?_, ?_, ?_⟩
    · rw [hnil']
      exact fun r hmem => absurd hmem List.not_mem_nil
    · rw [hnil']
      exact fun r hmem => absurd hmem List.not_mem_nil
    · rw [hnil']
      exact iff_of_false nofun nofun
  | testEnded s result hpending =>
    exact hs.congr (hsent.trans (List.append_nil _)) rfl Iff.rfl
  | stopped s => exact hs
  | prepared s hstage =>
    refine hs.congr rfl rfl (iff_of_false nofun ?_)
    rw [hstage]
    exact nofun
  | continued s hopen =>
    refine hs.congr rfl rfl (iff_of_false nofun ?_)
    rcases Session.isOpen_iff.mp hopen with h | h <;> rw [h] <;> exact nofun
  | finished s health hcontrol => exact hs.congr rfl rfl Iff.rfl

lemma orderly_of_leads {health : PerPipe Health} {s : Session} {steps : List Step}
    (h : Leads { health } steps s) (hrules : ∀ step ∈ steps, Rule step) : s.Orderly := by
  have hfresh : ({ health } : Session).Orderly := by
    refine ⟨?_, ?_, ?_⟩
    · exact fun r hmem => absurd hmem List.not_mem_nil
    · exact fun r hmem => absurd hmem List.not_mem_nil
    · exact iff_of_false nofun fun ⟨r, hr, _⟩ => by cases hr
  have hstep : ∀ step ∈ steps, step.before.Balanced ∧ step.before.Orderly →
      step.after.Balanced ∧ step.after.Orderly := by
    rintro step hmem ⟨hbalanced, horderly⟩
    have hrule := hrules step hmem
    exact ⟨hrule.balanced hbalanced, hrule.orderly hbalanced horderly⟩
  exact (h.invariant (P := fun s => s.Balanced ∧ s.Orderly)
    ⟨Session.balanced_fresh health, hfresh⟩ hstep).2.2

/-- A refused request changes nothing. -/
lemma Rule.after_eq_before {step : Step} (h : Rule step) {request : Request} {fault : Fault}
    {view : View} (hcause : step.cause = .asked request ⟨.error fault, view⟩) :
    step.after = step.before := by
  cases h with
  | asked heffect =>
    cases heffect with
    | refused fault => rfl
    | _ => cases hcause
  | _ => cases hcause

/-- A granted final message carries the log that was asked for. -/
lemma Step.log?_eq_of_granted? {step : Step} {score : UInt32} {full : Bool} {log : JudgeLog}
    (h : step.granted? = some (.finish score full log)) : step.log? = some log := by
  obtain ⟨before, cause, after⟩ := step
  cases cause with
  | called callback => cases h
  | resumed => cases h
  | asked request reply =>
    obtain ⟨result, view⟩ := reply
    cases result with
    | error fault => cases h
    | ok =>
      cases request with
      | finish score' full' log' =>
        cases h
        rfl
      | _ => cases h

/-- **The control stream is faithful.** Whatever the policy and whatever is heard, reading what was
written to the control channel gives the granted requests, in order, and ends cleanly. Among them
tests are tests of the problem, and a final message is the last; judging ends well only after one.
A refused request leaves the session as it was. -/
theorem decode_written_control (policy : Scorer σ) (state : σ) (health : PerPipe Health)
    (hsound : health.control.IsSound) (input : List UInt8)
    (hlogs : ∀ log ∈ (stepsUntil policy state { health } (heards input)).filterMap Step.log?,
      log.WellFormed) :
    let run := (judge Session.answer policy state { health } input).1
    let steps := stepsUntil policy state { health } (heards input)
    let granted := steps.filterMap Step.granted?
    Transcript.decode (Utf8.encode (run.session.written .control)) =
        ⟨granted.map Response.travelled, none⟩ ∧
      (∀ test live, .test test live ∈ granted → 1 ≤ test ∧ test ≤ run.session.tests) ∧
      (∀ r ∈ granted.dropLast, isFinal r = false) ∧
      (run.status = .over (.ok ()) → ∃ r, granted.getLast? = some r ∧ isFinal r = true) ∧
      ∀ step ∈ steps, ∀ request fault view, step.cause = .asked request ⟨.error fault, view⟩ →
        step.after = step.before := by
  intro run steps granted
  have hrun : run = judgeUntil policy state { health } (heards input) :=
    judge_eq_judgeUntil policy state { health } input
  have hrules := rule_stepsUntil policy state { health } rfl hsound (heards input)
  have hleads : Leads { health } steps run.session :=
    hrun ▸ leads_stepsUntil policy state { health } (heards input)
  have hready : run.Ready :=
    hrun ▸ ready_judgeUntil policy state { health } rfl hsound (heards input)
  have hsent : run.session.sent = granted := hleads.sent_eq hrules
  have horderly := orderly_of_leads hleads hrules
  have hsendable : ∀ r ∈ granted, IsSendable run.session.tests r := hsent ▸ horderly.sendable
  refine ⟨?_, fun test live hmem => hsendable _ hmem, hsent ▸ horderly.unfinished, ?_, ?_⟩
  · have hwritten := written_judgeUntil policy state hsound (heards input)
    rw [← hrun, hsent] at hwritten
    rw [hwritten]
    refine Transcript.decode_join_render ?_ ?_
    · intro r hmem
      cases r with
      | finish score full log =>
        -- a log that was sent is one that was asked for
        obtain ⟨step, hstep, hgranted⟩ := List.mem_filterMap.mp hmem
        exact hlogs log (List.mem_filterMap.mpr ⟨step, hstep, Step.log?_eq_of_granted? hgranted⟩)
      | _ => trivial
    · intro r hmem
      refine isToken_of_validate fun score full log heq => ?_
      rw [heq] at hmem
      exact hsendable _ hmem
  · intro hover
    rw [← hsent]
    exact horderly.finished.mp (hready.ended hover)
  · exact fun step hmem request fault view => (hrules step hmem).after_eq_before

/-- On `1` and an accepted test, the policy of ICPC contests asks for the test and ends. -/
theorem decode_written_control_accepted :
    let log : JudgeLog := { name := "main", tests := [⟨1, "OK", .accepted, 1, some 0⟩] }
    let input := Utf8.encode "1\n1 Accepted OK\n"
    let run := (judge Session.answer Icpc.policy Icpc.fresh {} input).1
    log.WellFormed ∧ run.session.isFinished = true ∧
      Transcript.decode (Utf8.encode (run.session.written .control)) =
        ⟨[.test 1 true, (Response.finish 100 true log).travelled], none⟩ := by
  intro log input run
  have hlog : log.WellFormed := by
    refine ⟨?_, ?_, ?_, ?_⟩ <;> decide
  have hheards : heards input = [.line (some "1"), .line (some "1 Accepted OK"), .ended] := by
    decide +kernel
  have hsteps : (stepsUntil Icpc.policy Icpc.fresh {} (heards input)).filterMap Step.log? =
      [log] := by
    rw [hheards]
    decide +kernel
  have hgranted : (stepsUntil Icpc.policy Icpc.fresh {} (heards input)).filterMap Step.granted? =
      [.test 1 true, .finish 100 true log] := by
    rw [hheards]
    decide +kernel
  have hfaithful := decode_written_control Icpc.policy Icpc.fresh ⟨.sound, .sound, .sound⟩
    (fun _ _ => rfl) input fun log' hmem => by
      rw [hsteps] at hmem
      exact List.mem_singleton.mp hmem ▸ hlog
  refine ⟨hlog, by decide +kernel, ?_⟩
  exact hfaithful.1.trans (by rw [hgranted]; rfl)

end Jury.Valuer
