import Jury.Proofs.Valuer.Ledger
import Jury.Valuer.Icpc

/-!
# Requests and results match

On a sound control channel a test is pending exactly when it was asked for once more than the
policy was told of it. So while results are awaited some request is unanswered; the policy is told
of exactly those lines that report a pending test, and any other line ends judging at once.
-/

namespace Jury.Valuer

open Jury.Control

variable {σ α : Type}

/-- How the pending tests of a session follow from the requests that are on the control channel and
the entries that the policy was handed. -/
structure Session.Matched (s : Session) (handed : List TestEntry) : Prop where
  written : s.written .control = String.join (s.sent.map Response.render)
  range : ∀ test ∈ s.pending, 1 ≤ test ∧ test ≤ s.tests
  pending : ∀ test, test ∈ s.pending ↔ s.requests test = handed.countP (·.test == test) + 1
  settled : ∀ test, test ∉ s.pending ↔ s.requests test = handed.countP (·.test == test)

lemma Session.Balanced.pending_cases {s : Session} (hs : s.Balanced) (test : UInt32) :
    (test ∈ s.pending ∧ s.requests test = s.answers test + 1) ∨
      (test ∉ s.pending ∧ s.requests test = s.answers test) := by
  have hbalance := hs.balance test
  by_cases hmem : test ∈ s.pending
  · rw [if_pos hmem] at hbalance
    exact .inl ⟨hmem, hbalance⟩
  · rw [if_neg hmem] at hbalance
    exact .inr ⟨hmem, hbalance⟩

lemma Session.Balanced.matched {s : Session} (hs : s.Balanced) (hwhole : s.IsWhole) :
    s.Matched s.handed := by
  refine ⟨Session.written_control hwhole, hs.range, fun test => ?_, fun test => ?_⟩
  · rcases hs.pending_cases test with ⟨hmem, hcount⟩ | ⟨hmem, hcount⟩
    · exact iff_of_true hmem hcount
    · exact iff_of_false hmem fun h => Nat.succ_ne_self _ (h.symm.trans hcount)
  · rcases hs.pending_cases test with ⟨hmem, hcount⟩ | ⟨hmem, hcount⟩
    · exact iff_of_false (not_not_intro hmem) fun h => Nat.succ_ne_self _ (hcount.symm.trans h)
    · exact iff_of_true hmem hcount

section

variable (policy : Scorer σ) (state : σ) {health : PerPipe Health}

lemma balanced_of_leads {s : Session} {steps : List Step} (h : Leads { health } steps s)
    (hrules : ∀ step ∈ steps, Rule step) : s.Balanced ∧ s.IsWhole := by
  have hwhole : ({ health } : Session).IsWhole := fun event hmem => absurd hmem List.not_mem_nil
  constructor
  · have hfresh := Session.balanced_fresh health
    exact (h.invariant hfresh fun step hmem => (hrules step hmem).balanced).2
  · exact (h.invariant hwhole fun step hmem => (hrules step hmem).isWhole).2

lemma matched_of_leads {s : Session} {steps : List Step} (h : Leads { health } steps s)
    (hrules : ∀ step ∈ steps, Rule step) : s.Matched (steps.filterMap Step.entry?) := by
  obtain ⟨hbalanced, hwhole⟩ := balanced_of_leads h hrules
  have hhanded : s.handed = steps.filterMap Step.entry? := h.handed_eq hrules
  exact hhanded ▸ hbalanced.matched hwhole

/-- At every point of judging the control channel carries the messages that were sent. -/
lemma written_judgeUntil (hsound : health.control.IsSound) (said : List Heard) :
    (judgeUntil policy state { health } said).session.written .control =
      String.join
        ((judgeUntil policy state { health } said).session.sent.map Response.render) := by
  have hrules := rule_stepsUntil policy state { health } rfl hsound said
  have hleads := leads_stepsUntil policy state { health } said
  exact Session.written_control (balanced_of_leads hleads hrules).2

/-- The steps of a callback do not call the policy again. -/
lemma cause_ne_called_of_mem_callSteps {callback callback' : Callback} {run : Run σ} {step : Step}
    (hmem : step ∈ run.callSteps policy callback) : step.cause ≠ .called callback' := by
  have htalk : ∀ {β : Type} (talk : Talk β) (s : Session), ∀ step ∈ talk.steps s,
      step.cause ≠ .called callback' := by
    intro β talk
    induction talk with
    | done value => exact fun s step hmem => absurd hmem List.not_mem_nil
    | ask request next ih =>
      intro s
      exact List.forall_mem_cons.mpr ⟨nofun, ih _ _⟩
  rcases List.mem_append.mp hmem with hmem | hmem
  · exact htalk _ _ step hmem
  · rw [List.mem_singleton.mp hmem]
    exact nofun

/-- While results are awaited, the policy is told of exactly the pending tests that are reported. -/
lemma told_iff {run : Run σ} (hbalanced : run.session.Balanced) (hstatus : run.status = .judging)
    (heard : Heard) (entry : TestEntry) :
    (∃ step ∈ run.hearSteps policy heard, step.cause = .called (.testEnded entry)) ↔
      ∃ result, Reports heard result ∧ result.test ∈ run.session.pending ∧
        entry = result.entry := by
  rw [Run.hearSteps]
  have hturn := turnRule_turn run heard
  generalize run.turn heard = turn at hturn ⊢
  cases hturn with
  | ended h => cases hstatus.symm.trans h
  | start h => cases hstatus.symm.trans h
  | uncounted h => cases hstatus.symm.trans h
  | @testEnded result _ hreport hpending =>
    constructor
    · rintro ⟨step, hmem, hcause⟩
      rcases List.mem_cons.mp hmem with rfl | hmem
      · cases hcause
        exact ⟨result, hreport, hpending, rfl⟩
      · exact absurd hcause (cause_ne_called_of_mem_callSteps policy hmem)
    · rintro ⟨result', hreport', -, rfl⟩
      rw [← hreport.unique hreport']
      exact ⟨_, List.mem_cons_self, rfl⟩
  | unreported _ hfault hreport =>
    constructor
    · rintro ⟨step, hmem, -⟩
      exact absurd hmem List.not_mem_nil
    · rintro ⟨result, hresult, hpending, -⟩
      exact absurd (hbalanced.range _ hpending) (hreport result hresult hpending)

/-- **Requests and results match.** At every point on the way from the fresh session to the last
one, a test is pending exactly when it was asked for once more than the policy was told of it, and
the two numbers never differ otherwise. Whenever a result is awaited, some request is unanswered;
the policy is told of what is heard if and only if it is the result of a pending test, and else
judging is over without another step. -/
theorem requests_match_results (health : PerPipe Health) (hsound : health.control.IsSound)
    (input : List UInt8) :
    Leads { health } (stepsUntil policy state { health } (heards input))
      (judge Session.answer policy state { health } input).1.session ∧
    (∀ done rest, stepsUntil policy state { health } (heards input) = done ++ rest →
      ∃ s, Leads { health } done s ∧ s.Matched (done.filterMap Step.entry?)) ∧
    ∀ said heard rest, heards input = said ++ heard :: rest →
      let run := judgeUntil policy state { health } said
      let handed := (stepsUntil policy state { health } said).filterMap Step.entry?
      run.status = .judging →
        (∃ test ∈ run.session.pending,
          run.session.requests test = handed.countP (·.test == test) + 1) ∧
        (∀ entry,
          (∃ step ∈ run.hearSteps policy heard, step.cause = .called (.testEnded entry)) ↔
            ∃ result, Reports heard result ∧ result.test ∈ run.session.pending ∧
              entry = result.entry) ∧
        (∀ result, Reports heard result → result.test ∈ run.session.pending →
          run.hear Session.answer policy heard =
            (run.deliver result).call policy (.testEnded result.entry)) ∧
        ((∀ result, Reports heard result → result.test ∉ run.session.pending) →
          ∃ fault, IsReadFault fault ∧
            (judge Session.answer policy state { health } input).1 = run.stop (.error fault) ∧
            stepsUntil policy state { health } (heards input) =
              stepsUntil policy state { health } said) := by
  have hrules := rule_stepsUntil policy state { health } rfl hsound
  have hleads := leads_stepsUntil policy state { health }
  refine ⟨?_, ?_, ?_⟩
  · rw [judge_eq_judgeUntil]
    exact hleads (heards input)
  · intro done rest hsteps
    -- a point on the way is the end of the steps before it
    have hpath := hleads (heards input)
    rw [hsteps] at hpath
    obtain ⟨s, hdone, -⟩ := hpath.exists_between
    refine ⟨s, hdone, matched_of_leads hdone fun step hmem => ?_⟩
    exact hrules _ step (hsteps ▸ List.mem_append_left rest hmem)
  · intro said heard rest hsaid run handed hstatus
    have hready : run.Ready := ready_judgeUntil policy state { health } rfl hsound said
    have hmatched : run.session.Matched handed := matched_of_leads (hleads said) (hrules said)
    obtain ⟨hbalanced, -⟩ := balanced_of_leads (hleads said) (hrules said)
    refine ⟨?_, told_iff policy hbalanced hstatus heard, ?_, ?_⟩
    · obtain ⟨test, hmem⟩ := List.exists_mem_of_ne_nil _ (hready.judging hstatus).2
      exact ⟨test, hmem, (hmatched.pending test).mp hmem⟩
    · intro result hreport hpending
      exact hear_of_reported policy hstatus hreport hpending (hbalanced.range _ hpending)
    · intro hnone
      obtain ⟨fault, hfault, hhear, hsteps⟩ := hear_of_unreported policy hstatus hnone
      have hover : (run.stop (.error fault)).status = .over (.error fault) := rfl
      refine ⟨fault, hfault, ?_, ?_⟩
      · rw [judge_eq_judgeUntil, hsaid, judgeUntil_append, Run.listen_cons]
        change (run.hear Session.answer policy heard).listen policy rest = _
        rw [hhear, Run.listen_of_over policy hover]
      · rw [hsaid, stepsUntil_append, Run.listenSteps]
        change _ ++ (run.hearSteps policy heard ++
          (run.hear Session.answer policy heard).listenSteps policy rest) = _
        rw [hsteps, hhear, Run.listenSteps_of_over policy hover, List.append_nil, List.append_nil]

/-- After `2`, the policy of ICPC contests is told of test 1 once: when its result is repeated,
judging is over, and nothing but the two requests was written. -/
theorem requests_match_results_repeated :
    let line : Heard := .line (some "1 Accepted OK")
    let said : List Heard := [.line (some "2"), line]
    let input := Utf8.encode "2\n1 Accepted OK\n1 Accepted OK\n"
    let run := judgeUntil Icpc.policy Icpc.fresh {} said
    let last := (judge Session.answer Icpc.policy Icpc.fresh {} input).1
    run.status = .judging ∧ run.session.pending = [2] ∧
      last.session.written .control = "RUN 1 1\nRUN 2 1\n" ∧
      ∃ fault, IsReadFault fault ∧ last = run.stop (.error fault) := by
  intro line said input run last
  have hheards : heards input = said ++ line :: [.ended] := by decide +kernel
  have hstatus : run.status = .judging := rfl
  have hpending : run.session.pending = [2] := rfl
  obtain ⟨-, -, -, hother⟩ := (requests_match_results Icpc.policy Icpc.fresh
    ⟨.sound, .sound, .sound⟩ (fun _ _ => rfl) input).2.2 said line _ hheards hstatus
  have hresult : Reports line ⟨1, .accepted, "OK"⟩ := ⟨_, rfl, by decide +kernel⟩
  obtain ⟨fault, hfault, hjudge, -⟩ := hother fun result hreport => by
    rw [← hresult.unique hreport]
    exact (by decide : (1 : UInt32) ∉ ([2] : List UInt32))
  exact ⟨hstatus, hpending, by decide +kernel, fault, hfault, hjudge⟩

end

end Jury.Valuer
