import Jury.Proofs.Valuer.Steps

/-!
# The rules of judging

Every turn of the driver follows a `TurnRule`, every step of judging is a `Move`, and on a sound
control channel it follows a `Rule`. A property of sessions that the moves or the rules preserve
therefore holds at every point of every judging, whatever the policy and whatever is heard.
-/

namespace Jury.Valuer

open Jury.Control

variable {σ α : Type}

/-! ### Turns -/

/-- What the driver makes of what it hears. -/
inductive TurnRule (run : Run σ) (heard : Heard) : Turn → Prop
  | ended {result : Except Fault Unit} (hstatus : run.status = .over result) :
      TurnRule run heard .none
  | start {tests : UInt32} (hstatus : run.status = .counting) (hcount : Counts heard tests) :
      TurnRule run heard (.call .start { run.session with tests, stage := .awaitingBegin })
  | uncounted {fault : Fault} (hstatus : run.status = .counting) (hfault : IsReadFault fault)
      (hcount : ∀ tests, ¬Counts heard tests) : TurnRule run heard (.fault fault)
  | testEnded {result : Notification} (hstatus : run.status = .judging)
      (hreport : Reports heard result) (hpending : result.test ∈ run.session.pending) :
      TurnRule run heard (.call (.testEnded result.entry) (run.deliver result).session)
  | unreported {fault : Fault} (hstatus : run.status = .judging) (hfault : IsReadFault fault)
      (hreport : ∀ result, Reports heard result → result.test ∈ run.session.pending →
        ¬(1 ≤ result.test ∧ result.test ≤ run.session.tests)) :
      TurnRule run heard (.fault fault)

lemma turnRule_turn (run : Run σ) (heard : Heard) : TurnRule run heard (run.turn heard) := by
  rcases hstatus : run.status with _ | _ | result
  · rcases heard with ((_ | line) | _)
    · simp only [Run.turn, hstatus]
      refine .uncounted hstatus trivial ?_
      rintro tests ⟨line, heq, -⟩
      cases heq
    · simp only [Run.turn, hstatus]
      cases hword : Text.word? line with
      | none =>
        refine .uncounted hstatus trivial ?_
        rintro tests ⟨line', heq, hword', -⟩
        cases heq
        cases hword.symm.trans hword'
      | some tests =>
        by_cases hzero : tests = 0
        · simp only [hzero, if_true]
          refine .uncounted hstatus trivial ?_
          rintro tests' ⟨line', heq, hword', hne⟩
          cases heq
          cases hword.symm.trans hword'
          exact hne hzero
        · simp only [hzero, if_false]
          exact .start hstatus ⟨line, rfl, hword, hzero⟩
    · simp only [Run.turn, hstatus]
      refine .uncounted hstatus trivial ?_
      rintro tests ⟨line, heq, -⟩
      cases heq
  · rcases heard with ((_ | line) | _)
    · simp only [Run.turn, hstatus]
      refine .unreported hstatus trivial ?_
      rintro result ⟨line, heq, -⟩
      cases heq
    · simp only [Run.turn, hstatus]
      cases hparse : Notification.parse line with
      | error fault =>
        refine .unreported hstatus (isReadFault_of_parse hparse) ?_
        rintro result ⟨line', heq, hparse'⟩
        cases heq
        cases hparse.symm.trans hparse'
      | ok result =>
        have hreport : Reports (.line (some line)) result := ⟨line, rfl, hparse⟩
        by_cases hrange : result.test < 1 ∨ run.session.tests < result.test
        · simp only [hrange, if_true]
          refine .unreported hstatus trivial ?_
          rintro result' hreport' - ⟨hfirst, hlast⟩
          rw [hreport.unique hreport'] at hrange
          rcases hrange with hlt | hlt
          · exact UInt32.not_le.mpr hlt hfirst
          · exact UInt32.not_le.mpr hlt hlast
        · by_cases hpending : result.test ∈ run.session.pending
          · simp only [hrange, List.contains_iff_mem.mpr hpending, Bool.not_true,
              Bool.false_eq_true, if_false]
            exact .testEnded hstatus hreport hpending
          · simp only [hrange, List.contains_eq_mem, hpending, decide_false, Bool.not_false,
              if_true, if_false]
            refine .unreported hstatus trivial ?_
            intro result' hreport' hpending'
            rw [hreport.unique hreport'] at hpending
            exact absurd hpending' hpending
    · simp only [Run.turn, hstatus]
      refine .unreported hstatus trivial ?_
      rintro result ⟨line, heq, -⟩
      cases heq
  · simp only [Run.turn, hstatus]
    exact .ended hstatus

section

variable (policy : Scorer σ)

/-- While the number of tests is awaited, it makes the policy start. -/
lemma hear_of_counts {run : Run σ} (hstatus : run.status = .counting) {heard : Heard}
    {tests : UInt32} (hcount : Counts heard tests) :
    run.hear Session.answer policy heard =
      ({ run with session := { run.session with tests, stage := .awaitingBegin } } : Run σ).call
        policy .start := by
  rw [Run.hear_eq_take]
  have hturn := turnRule_turn run heard
  generalize run.turn heard = turn at hturn ⊢
  cases hturn with
  | ended h => cases hstatus.symm.trans h
  | testEnded h => cases hstatus.symm.trans h
  | unreported h => cases hstatus.symm.trans h
  | start _ hcount' =>
    rw [hcount.unique hcount']
    rfl
  | uncounted _ hfault hnone => exact absurd hcount (hnone tests)

/-- While the number of tests is awaited, anything else ends judging. -/
lemma hear_of_uncounted {run : Run σ} (hstatus : run.status = .counting) {heard : Heard}
    (h : ∀ tests, ¬Counts heard tests) :
    ∃ fault, IsReadFault fault ∧
      run.hear Session.answer policy heard = run.stop (.error fault) := by
  rw [Run.hear_eq_take]
  have hturn := turnRule_turn run heard
  generalize run.turn heard = turn at hturn ⊢
  cases hturn with
  | ended h => cases hstatus.symm.trans h
  | testEnded h => cases hstatus.symm.trans h
  | unreported h => cases hstatus.symm.trans h
  | @start tests _ hcount => exact absurd hcount (h tests)
  | @uncounted fault _ hfault => exact ⟨fault, hfault, rfl⟩

/-- While results are awaited, the result of a pending test is delivered. -/
lemma hear_of_reported {run : Run σ} (hstatus : run.status = .judging) {heard : Heard}
    {result : Notification} (hreport : Reports heard result)
    (hpending : result.test ∈ run.session.pending)
    (hrange : 1 ≤ result.test ∧ result.test ≤ run.session.tests) :
    run.hear Session.answer policy heard =
      (run.deliver result).call policy (.testEnded result.entry) := by
  rw [Run.hear_eq_take]
  have hturn := turnRule_turn run heard
  generalize run.turn heard = turn at hturn ⊢
  cases hturn with
  | ended h => cases hstatus.symm.trans h
  | start h => cases hstatus.symm.trans h
  | uncounted h => cases hstatus.symm.trans h
  | @testEnded result' _ hreport' _ =>
    rw [hreport.unique hreport']
    rfl
  | unreported _ hfault hnone =>
    exact absurd hrange (hnone result hreport hpending)

/-- While results are awaited, anything but the result of a pending test ends judging. -/
lemma hear_of_unreported {run : Run σ} (hstatus : run.status = .judging) {heard : Heard}
    (h : ∀ result, Reports heard result → result.test ∉ run.session.pending) :
    ∃ fault, IsReadFault fault ∧
      run.hear Session.answer policy heard = run.stop (.error fault) ∧
      run.hearSteps policy heard = [] := by
  rw [Run.hear_eq_take, Run.hearSteps]
  have hturn := turnRule_turn run heard
  generalize run.turn heard = turn at hturn ⊢
  cases hturn with
  | ended h => cases hstatus.symm.trans h
  | start h => cases hstatus.symm.trans h
  | uncounted h => cases hstatus.symm.trans h
  | @testEnded result _ hreport hpending => exact absurd hpending (h result hreport)
  | @unreported fault _ hfault hreport => exact ⟨fault, hfault, rfl, rfl⟩

end

/-! ### The rules -/

/-- What a step does when the control channel is sound. -/
inductive Rule : Step → Prop
  | asked {s s' : Session} {request : Request} {result : Except Fault Unit}
      (h : Effect s request result s') : Rule ⟨s, .asked request ⟨result, s'.view⟩, s'⟩
  | prepare (s : Session) : Rule ⟨s, .called .prepare, s⟩
  | start (s : Session) (tests : UInt32) (hstage : s.stage = .awaitingTestCount) :
      Rule ⟨s, .called .start, { s with tests, stage := .awaitingBegin }⟩
  | testEnded (s : Session) (result : Notification) (hpending : result.test ∈ s.pending) :
      Rule ⟨s, .called (.testEnded result.entry),
        { s.record (.delivered result) with pending := s.pending.erase result.test }⟩
  | stopped (s : Session) : Rule ⟨s, .resumed, s⟩
  | prepared (s : Session) (hstage : s.stage = .awaitingInit) :
      Rule ⟨s, .resumed, { s with stage := .awaitingTestCount }⟩
  | continued (s : Session) (hopen : s.isOpen = true) :
      Rule ⟨s, .resumed, { s with stage := .running }⟩
  | finished (s : Session) (health : PerPipe Health)
      (hcontrol : health.control = s.health.control) : Rule ⟨s, .resumed, { s with health }⟩

/-- What a step does, whatever befalls the channels: a request is performed, of which the message
may be torn, and everything else follows the rules. -/
inductive Move : Step → Prop
  | asked {s s' : Session} {request : Request} {result : Except Fault Unit}
      (h : s.perform request = (result, s')) : Move ⟨s, .asked request ⟨result, s'.view⟩, s'⟩
  | ruled {step : Step} (h : Rule step)
      (hcause : ∀ request reply, step.cause ≠ .asked request reply) : Move step

/-- What is asked for at a step is performed by the session before it. -/
lemma Move.perform_eq {step : Step} (h : Move step) {request : Request} {reply : Reply}
    (hcause : step.cause = .asked request reply) :
    step.before.perform request = (reply.result, step.after) := by
  cases h with
  | asked hperform =>
    cases hcause
    exact hperform
  | ruled hrule hnot => exact absurd hcause (hnot _ _)

lemma Move.rule {step : Step} (h : Move step) (hsound : step.before.health.control.IsSound) :
    Rule step := by
  cases h with
  | ruled h hcause => exact h
  | asked hperform =>
    cases attempt_of_perform hperform with
    | settled heffect hdelivers => exact .asked heffect
    | torn hmessage cause htext count hopen hnot => exact absurd (hsound.delivers _) hnot

lemma Effect.breakage_eq {s s' : Session} {request : Request} {result : Except Fault Unit}
    (h : Effect s request result s') :
    s'.health.control.breakage = s.health.control.breakage := by
  cases h with
  | commented audience text health written hcontrol => exact congrArg Health.breakage hcontrol
  | _ => rfl

lemma Rule.breakage_eq {step : Step} (h : Rule step) :
    step.after.health.control.breakage = step.before.health.control.breakage := by
  cases h with
  | asked heffect => exact heffect.breakage_eq
  | finished s health hcontrol => exact congrArg Health.breakage hcontrol
  | _ => rfl

lemma Rule.isSound {step : Step} (h : Rule step)
    (hsound : step.before.health.control.IsSound) : step.after.health.control.IsSound := by
  intro op n
  rw [h.breakage_eq]
  exact hsound op n

/-- A request leaves the stage, or takes an open session to its end. -/
lemma Effect.stage_eq {s s' : Session} {request : Request} {result : Except Fault Unit}
    (h : Effect s request result s') :
    s'.stage = s.stage ∨ (s.isOpen = true ∧ s'.stage = .finished) := by
  cases h with
  | finished score full log hopen hlog => exact .inr ⟨hopen, rfl⟩
  | _ => exact .inl rfl

lemma Attempt.stage_eq {s s' : Session} {request : Request} {result : Except Fault Unit}
    (h : Attempt s request result s') :
    s'.stage = s.stage ∨ (s.isOpen = true ∧ s'.stage = .finished) := by
  cases h with
  | settled heffect hdelivers => exact heffect.stage_eq
  | torn hmessage cause htext count hopen hnot => exact .inl rfl

lemma Session.isOpen_iff {s : Session} :
    s.isOpen = true ↔ s.stage = .awaitingBegin ∨ s.stage = .running := by
  simp [Session.isOpen]

lemma move_talk (talk : Talk α) (s : Session) : ∀ step ∈ talk.steps s, Move step := by
  induction talk generalizing s with
  | done value => exact fun _ hmem => absurd hmem List.not_mem_nil
  | ask request next ih =>
    intro step hmem
    rcases List.mem_cons.mp hmem with rfl | hmem
    · exact .asked rfl
    · exact ih _ _ step hmem

/-- What every request preserves, a dialogue preserves. -/
lemma run_talk_invariant {P : Session → Prop}
    (hP : ∀ {s s' : Session} {request : Request} {result : Except Fault Unit},
      Attempt s request result s' → P s → P s')
    (talk : Talk α) {s : Session} (hs : P s) : P (talk.run Session.answer s).2 := by
  induction talk generalizing s with
  | done value => exact hs
  | ask request next ih => exact ih _ (hP (s.attempt_perform request) hs)

lemma stage_run_talk (talk : Talk α) (s : Session) :
    (talk.run Session.answer s).2.stage = s.stage ∨
      (s.isOpen = true ∧ (talk.run Session.answer s).2.stage = .finished) := by
  refine run_talk_invariant (P := fun s' => s'.stage = s.stage ∨
    (s.isOpen = true ∧ s'.stage = .finished)) ?_ talk (.inl rfl)
  rintro s₁ s₂ request result hattempt hs₁
  rcases hattempt.stage_eq with hsame | ⟨hopen, hfinished⟩
  · rwa [hsame]
  · rcases hs₁ with hs₁ | ⟨hopen₁, -⟩
    · refine .inr ⟨?_, hfinished⟩
      rwa [Session.isOpen_iff, ← hs₁, ← Session.isOpen_iff]
    · exact .inr ⟨hopen₁, hfinished⟩

namespace Run

/-- What holds between the driver's turns on any channels: what the driver waits for agrees with
the stage of the session. While results are awaited a test is pending. -/
structure Poised (run : Run σ) : Prop where
  counting : run.status = .counting → run.session.stage = .awaitingTestCount
  judging : run.status = .judging → run.session.stage = .running ∧ run.session.pending ≠ []
  ended : run.status = .over (.ok ()) → run.session.stage = .finished

/-- What holds between the driver's turns when the control channel is sound. -/
structure Ready (run : Run σ) : Prop extends run.Poised where
  sound : run.session.health.control.IsSound

/-- A callback ends judging with its fault, or the driver goes on with what it left. -/
lemma call_cases (policy : Scorer σ) (callback : Callback) (run : Run σ) :
    (∃ fault, run.call policy callback = (run.left policy callback).stop (.error fault)) ∨
      run.call policy callback = (run.left policy callback).resume callback := by
  rw [call_eq_left]
  cases ((run.talk policy callback).run Session.answer run.session).1.1 with
  | error fault => exact .inl ⟨fault, rfl⟩
  | ok => exact .inr rfl

lemma proceed_of_finished (idle : ContractFault) {run : Run σ}
    (h : run.session.stage = .finished) :
    run.proceed idle = { run with session := run.session.flushComments }.stop (.ok ()) := by
  simp [proceed, Session.isFinished, h]

lemma proceed_of_pending (idle : ContractFault) {run : Run σ}
    (hstage : run.session.stage ≠ .finished) (hpending : run.session.pending ≠ []) :
    run.proceed idle = { run.enter .running with status := .judging } := by
  simp [proceed, Session.isFinished, hstage, hpending]

lemma proceed_of_idle (idle : ContractFault) {run : Run σ}
    (hstage : run.session.stage ≠ .finished) (hpending : run.session.pending = []) :
    run.proceed idle = run.stop (.error (.contract idle)) := by
  simp [proceed, Session.isFinished, hstage, hpending]

lemma poised_stop_error (run : Run σ) (fault : Fault) : (run.stop (.error fault)).Poised where
  counting := nofun
  judging := nofun
  ended := nofun

/-- The driver goes on after a callback for which the session was open. -/
lemma poised_proceed (idle : ContractFault) {run : Run σ}
    (hstage : run.session.isOpen = true ∨ run.session.stage = .finished) :
    (run.proceed idle).Poised ∧
      Rule ⟨run.session, .resumed, (run.proceed idle).session⟩ := by
  by_cases hfinished : run.session.stage = .finished
  · rw [proceed_of_finished idle hfinished]
    obtain ⟨health, hcontrol, hflush⟩ := run.session.flushComments_eq
    refine ⟨⟨nofun, nofun, fun _ => ?_⟩, ?_⟩
    · simpa only [stop, hflush] using hfinished
    · simpa only [stop, hflush] using Rule.finished run.session health hcontrol
  · by_cases hpending : run.session.pending = []
    · rw [proceed_of_idle idle hfinished hpending]
      exact ⟨poised_stop_error run _, .stopped _⟩
    · rw [proceed_of_pending idle hfinished hpending]
      have hopen := hstage.resolve_right hfinished
      exact ⟨⟨nofun, fun _ => ⟨rfl, hpending⟩, nofun⟩, .continued _ hopen⟩

/-- The steps of a callback are moves if the driver's last one follows a rule. -/
lemma move_callSteps (policy : Scorer σ) (callback : Callback) (run : Run σ)
    (h : Rule ⟨(run.left policy callback).session, .resumed,
      (run.call policy callback).session⟩) :
    ∀ step ∈ run.callSteps policy callback, Move step := by
  intro step hmem
  rcases List.mem_append.mp hmem with hmem | hmem
  · exact move_talk _ _ step hmem
  · rw [List.mem_singleton.mp hmem]
    exact .ruled h fun _ _ => Cause.noConfusion

lemma poised_call (policy : Scorer σ) (callback : Callback) (hcallback : callback ≠ .prepare)
    (run : Run σ) (hopen : run.session.isOpen = true) :
    (run.call policy callback).Poised ∧ ∀ step ∈ run.callSteps policy callback, Move step := by
  have hstage : (run.left policy callback).session.isOpen = true ∨
      (run.left policy callback).session.stage = .finished := by
    rcases stage_run_talk (run.talk policy callback) run.session with hsame | ⟨-, hfinished⟩
    · refine .inl (Session.isOpen_iff.mpr ?_)
      rw [left, hsame]
      exact Session.isOpen_iff.mp hopen
    · exact .inr hfinished
  suffices (run.call policy callback).Poised ∧
      Rule ⟨(run.left policy callback).session, .resumed, (run.call policy callback).session⟩ from
    ⟨this.1, run.move_callSteps policy callback this.2⟩
  rcases run.call_cases policy callback with ⟨fault, heq⟩ | heq
  · rw [heq]
    exact ⟨poised_stop_error _ fault, .stopped _⟩
  · rw [heq]
    cases callback with
    | prepare => exact absurd rfl hcallback
    | start => exact poised_proceed _ hstage
    | testEnded entry => exact poised_proceed _ hstage

lemma poised_begin (policy : Scorer σ) (state : σ) {session : Session}
    (hstage : session.stage = .awaitingInit) :
    (Run.begin Session.answer policy state session).Poised ∧
      ∀ step ∈ ({ policy := state, session, status := .counting } : Run σ).callSteps policy
        .prepare, Move step := by
  rw [begin_eq_call]
  generalize hrun : ({ policy := state, session, status := .counting } : Run σ) = run
  have hsession : run.session = session := by rw [← hrun]
  have hstatus : run.status = .counting := by rw [← hrun]
  have hinit : (run.left policy .prepare).session.stage = .awaitingInit := by
    rcases stage_run_talk (run.talk policy .prepare) run.session with hsame | ⟨hopen, -⟩
    · exact hsame.trans (hsession ▸ hstage)
    · simp [Session.isOpen_iff, hsession, hstage] at hopen
  suffices (run.call policy .prepare).Poised ∧
      Rule ⟨(run.left policy .prepare).session, .resumed, (run.call policy .prepare).session⟩ from
    ⟨this.1, run.move_callSteps policy .prepare this.2⟩
  rcases run.call_cases policy .prepare with ⟨fault, heq⟩ | heq
  · rw [heq]
    exact ⟨poised_stop_error _ fault, .stopped _⟩
  · rw [heq]
    have hcounting : (run.left policy .prepare).status = .counting := hstatus
    refine ⟨⟨fun _ => rfl, ?_, ?_⟩, .prepared _ hinit⟩
    · intro hjudging
      exact Status.noConfusion (hcounting.symm.trans hjudging)
    · intro hover
      exact Status.noConfusion (hcounting.symm.trans hover)

/-- What the driver hears keeps it poised, by moves. -/
lemma poised_hear (policy : Scorer σ) {run : Run σ} (h : run.Poised) (heard : Heard) :
    (run.hear Session.answer policy heard).Poised ∧
      ∀ step ∈ run.hearSteps policy heard, Move step := by
  rw [hear_eq_take, hearSteps]
  have hturn := turnRule_turn run heard
  generalize run.turn heard = turn at hturn ⊢
  cases hturn with
  | ended hstatus => exact ⟨h, fun _ hmem => absurd hmem List.not_mem_nil⟩
  | uncounted hstatus hfault hcount =>
    exact ⟨poised_stop_error run _, fun _ hmem => absurd hmem List.not_mem_nil⟩
  | unreported hstatus hfault hreport =>
    exact ⟨poised_stop_error run _, fun _ hmem => absurd hmem List.not_mem_nil⟩
  | @start tests hstatus hcount =>
    have hcall := poised_call policy .start (by simp)
      { run with session := { run.session with tests, stage := .awaitingBegin } } rfl
    refine ⟨hcall.1, fun step hmem => ?_⟩
    rcases List.mem_cons.mp hmem with rfl | hmem
    · exact .ruled (.start run.session tests (h.counting hstatus)) fun _ _ => Cause.noConfusion
    · exact hcall.2 step hmem
  | @testEnded result hstatus hreport hpending =>
    have hopen : (run.deliver result).session.isOpen = true :=
      Session.isOpen_iff.mpr (.inr (h.judging hstatus).1)
    have hcall := poised_call policy (.testEnded result.entry) (by simp)
      { run with session := (run.deliver result).session } hopen
    refine ⟨hcall.1, fun step hmem => ?_⟩
    rcases List.mem_cons.mp hmem with rfl | hmem
    · exact .ruled (.testEnded run.session result hpending) fun _ _ => Cause.noConfusion
    · exact hcall.2 step hmem

lemma poised_listen (policy : Scorer σ) {run : Run σ} (h : run.Poised) (said : List Heard) :
    (run.listen policy said).Poised ∧ ∀ step ∈ run.listenSteps policy said, Move step := by
  induction said generalizing run with
  | nil => exact ⟨h, fun _ hmem => absurd hmem List.not_mem_nil⟩
  | cons heard said ih =>
    obtain ⟨hpoised, hturn⟩ := poised_hear policy h heard
    obtain ⟨hlast, hrest⟩ := ih hpoised
    refine ⟨hlast, fun step hmem => ?_⟩
    rcases List.mem_append.mp hmem with hmem | hmem
    · exact hturn step hmem
    · exact hrest step hmem

end Run

section

variable (policy : Scorer σ) (state : σ) (session : Session)
  (hstage : session.stage = .awaitingInit)

include hstage

lemma poised_judgeUntil (said : List Heard) : (judgeUntil policy state session said).Poised :=
  (Run.poised_listen policy (Run.poised_begin policy state hstage).1 said).1

/-- On any channels, every step of judging is a move. -/
theorem move_stepsUntil (said : List Heard) :
    ∀ step ∈ stepsUntil policy state session said, Move step := by
  intro step hmem
  obtain ⟨hpoised, hbegin⟩ := Run.poised_begin policy state hstage
  rcases List.mem_cons.mp hmem with rfl | hmem
  · exact .ruled (.prepare session) fun _ _ => Cause.noConfusion
  · rcases List.mem_append.mp hmem with hmem | hmem
    · exact hbegin step hmem
    · exact (Run.poised_listen policy hpoised said).2 step hmem

/-- What every move preserves holds at every point of judging. -/
lemma invariant_stepsUntil {P : Session → Prop} (hsession : P session) (said : List Heard)
    (hstep : ∀ step ∈ stepsUntil policy state session said, Move step → P step.before →
      P step.after) :
    (∀ step ∈ stepsUntil policy state session said, P step.before) ∧
      P (judgeUntil policy state session said).session := by
  obtain ⟨hall, hlast⟩ := (leads_stepsUntil policy state session said).invariant hsession
    fun step hmem => hstep step hmem (move_stepsUntil policy state session hstage said step hmem)
  exact ⟨fun step hmem => (hall step hmem).1, hlast⟩

variable (hsound : session.health.control.IsSound)

include hsound

/-- A control channel that is sound stays so. -/
lemma isSound_stepsUntil (said : List Heard) :
    (∀ step ∈ stepsUntil policy state session said, step.before.health.control.IsSound) ∧
      (judgeUntil policy state session said).session.health.control.IsSound :=
  invariant_stepsUntil policy state session hstage (P := fun s => s.health.control.IsSound) hsound
    said fun _ _ hmove hbefore => (hmove.rule hbefore).isSound hbefore

lemma ready_judgeUntil (said : List Heard) : (judgeUntil policy state session said).Ready := by
  obtain ⟨-, hlast⟩ := isSound_stepsUntil policy state session hstage hsound said
  exact ⟨poised_judgeUntil policy state session hstage said, hlast⟩

/-- On a sound control channel, every step of judging follows a rule. -/
theorem rule_stepsUntil (said : List Heard) :
    ∀ step ∈ stepsUntil policy state session said, Rule step := by
  intro step hmem
  obtain ⟨hsounds, -⟩ := isSound_stepsUntil policy state session hstage hsound said
  exact (move_stepsUntil policy state session hstage said step hmem).rule (hsounds step hmem)

end

end Jury.Valuer
