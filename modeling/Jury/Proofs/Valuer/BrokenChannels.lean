import Jury.Proofs.Dialogue
import Jury.Proofs.Valuer.Rules

/-!
# Judging over channels that fail

Whatever fails on the comment channels, the control channel carries the same text and judging ends
with the same result. What fails on the control channel, at whatever line of a message, costs no
more than the message: the request is not granted, the session stays in the state that it was in,
and at most a beginning of the message arrives. So a session is finished only when its final message
was written and flushed, and nothing is written behind it (`judge_of_broken`).
-/

namespace Jury.Valuer

open Jury.Control

variable {σ : Type}

/-! ### What fails on the comment channels -/

/-- Whether two sessions agree on everything but comments. -/
structure Session.Agrees (s t : Session) : Prop where
  stage_eq : t.stage = s.stage
  tests_eq : t.tests = s.tests
  pending_eq : t.pending = s.pending
  log_eq : t.log = s.log
  control_eq : t.health.control = s.health.control
  written_eq : t.written .control = s.written .control

namespace Session.Agrees

variable {s t : Session}

lemma view_eq (h : s.Agrees t) : t.view = s.view := by
  rw [view, view, h.stage_eq, h.tests_eq, h.pending_eq, h.log_eq]

lemma setHealth (h : s.Agrees t) {health health' : PerPipe Health}
    (hcontrol : health'.control = health.control) :
    ({ s with health } : Session).Agrees { t with health := health' } :=
  ⟨h.stage_eq, h.tests_eq, h.pending_eq, h.log_eq, hcontrol, h.written_eq⟩

lemma record (h : s.Agrees t) (event : Event) : (s.record event).Agrees (t.record event) where
  stage_eq := h.stage_eq
  tests_eq := h.tests_eq
  pending_eq := h.pending_eq
  log_eq := h.log_eq
  control_eq := h.control_eq
  written_eq := congrArg (· ++ event.text .control) h.written_eq

/-- A comment changes nothing else. -/
lemma comment (h : s.Agrees t) (audience : Audience) (text : String) :
    (s.comment audience.pipe text).Agrees (t.comment audience.pipe text) := by
  obtain ⟨health, written, hcontrol, heq⟩ := s.comment_eq audience text
  obtain ⟨health', written', hcontrol', heq'⟩ := t.comment_eq audience text
  have hsilent : ∀ written, (Event.commented audience.pipe written).text .control = "" := by
    cases audience <;> exact fun _ => rfl
  rw [heq, heq']
  refine ⟨h.stage_eq, h.tests_eq, h.pending_eq, h.log_eq, ?_, ?_⟩
  · rw [hcontrol, hcontrol', h.control_eq]
  · simpa only [Session.written, writtenText, hsilent, String.append_empty] using h.written_eq

end Session.Agrees

/-- Whether two requests had the same result and left sessions that agree. -/
structure SameResult (x y : Except Fault Unit × Session) : Prop where
  result_eq : x.1 = y.1
  session : x.2.Agrees y.2

namespace SameResult

variable {x y x' y' : Except Fault Unit × Session} {s t : Session}

lemma ite {c : Prop} [Decidable c] (h : SameResult x y) (h' : SameResult x' y') :
    SameResult (if c then x else x') (if c then y else y') := by
  split
  · exact h
  · exact h'

/-- Doing the same to both sessions when a message got through. -/
lemma andThen (next : Session → Session)
    (hnext : ∀ {s t : Session}, s.Agrees t → (next s).Agrees (next t)) :
    SameResult x y → SameResult
      (match x with
        | (.ok (), s) => (.ok (), next s)
        | (.error fault, s) => (.error fault, s))
      (match y with
        | (.ok (), s) => (.ok (), next s)
        | (.error fault, s) => (.error fault, s)) := by
  obtain ⟨result, s⟩ := x
  obtain ⟨result', t⟩ := y
  rintro ⟨hresult, hsession⟩
  obtain rfl : result = result' := hresult
  cases result with
  | error fault => exact ⟨rfl, hsession⟩
  | ok => exact ⟨rfl, hnext hsession⟩

/-- A message fares alike on control channels of the same health. -/
lemma send (h : s.Agrees t) (response : Response) :
    SameResult (s.send response) (t.send response) := by
  have hset : ∀ health : Health, ({ s with health.control := health } : Session).Agrees
      { t with health.control := health } := fun _ => h.setHealth rfl
  simp only [Session.send, h.control_eq]
  rcases Channel.deliver { health := s.health.control } response.pieces with ⟨_ | _, channel⟩
  · exact ⟨rfl, (hset channel.health).record _⟩
  · exact ⟨rfl, (hset channel.health).record _⟩

lemma perform (h : s.Agrees t) (request : Request) :
    SameResult (s.perform request) (t.perform request) := by
  have hrefused : ∀ fault, SameResult (.error fault, s) (.error fault, t) := fun _ => ⟨rfl, h⟩
  have hopen : t.isOpen = s.isOpen := by rw [Session.isOpen, Session.isOpen, h.stage_eq]
  cases request with
  | select test live =>
    simp only [Session.perform, Session.select, hopen, h.stage_eq, h.tests_eq, h.pending_eq]
    refine ite (hrefused _) (ite (hrefused _) (ite (hrefused _) ?_))
    refine andThen (fun s => { s with pending := test :: s.pending }) (fun hsent => ?_) (send h _)
    exact ⟨hsent.stage_eq, hsent.tests_eq, congrArg (test :: ·) hsent.pending_eq, hsent.log_eq,
      hsent.control_eq, hsent.written_eq⟩
  | reportLive score =>
    simp only [Session.perform, Session.reportLive, hopen, h.stage_eq]
    exact ite (hrefused _) (send h _)
  | finish score full log =>
    simp only [Session.perform, Session.finish, hopen, h.stage_eq]
    refine ite (hrefused _) ?_
    cases log.validate with
    | error fault => exact hrefused fault
    | ok =>
      refine andThen (fun s => { s with stage := .finished }) (fun hsent => ?_) (send h _)
      exact ⟨rfl, hsent.tests_eq, hsent.pending_eq, hsent.log_eq, hsent.control_eq,
        hsent.written_eq⟩
  | comment audience text => exact ⟨rfl, h.comment audience text⟩
  | setLog log =>
    exact ⟨rfl, h.stage_eq, h.tests_eq, h.pending_eq, rfl, h.control_eq, h.written_eq⟩

end SameResult

lemma simulates_agrees :
    Dialogue.Simulates Session.answer Session.answer Session.Agrees := by
  intro s t h request
  obtain ⟨hresult, hafter⟩ := SameResult.perform h request
  refine ⟨?_, hafter⟩
  rw [Session.answer, Session.answer]
  dsimp only
  rw [hresult, hafter.view_eq]

namespace Run

/-- Whether two runs agree on everything but comments. -/
structure Agrees (run run' : Run σ) : Prop where
  policy_eq : run'.policy = run.policy
  status_eq : run'.status = run.status
  session : run.session.Agrees run'.session

namespace Agrees

variable {run run' : Run σ}

lemma stop (h : run.Agrees run') (result : Except Fault Unit) :
    (run.stop result).Agrees (run'.stop result) :=
  ⟨h.policy_eq, rfl, h.session⟩

lemma enter (h : run.Agrees run') (stage : Stage) : (run.enter stage).Agrees (run'.enter stage) :=
  ⟨h.policy_eq, h.status_eq, rfl, h.session.tests_eq, h.session.pending_eq, h.session.log_eq,
    h.session.control_eq, h.session.written_eq⟩

lemma proceed (h : run.Agrees run') (idle : ContractFault) :
    (run.proceed idle).Agrees (run'.proceed idle) := by
  have hstage := h.session.stage_eq
  have hpending := h.session.pending_eq
  by_cases hfinished : run.session.stage = .finished
  · rw [proceed_of_finished idle hfinished, proceed_of_finished idle (hstage.trans hfinished)]
    obtain ⟨health, hcontrol, hflush⟩ := run.session.flushComments_eq
    obtain ⟨health', hcontrol', hflush'⟩ := run'.session.flushComments_eq
    rw [hflush, hflush']
    refine ⟨h.policy_eq, rfl, h.session.setHealth ?_⟩
    rw [hcontrol, hcontrol', h.session.control_eq]
  · have hfinished' : run'.session.stage ≠ .finished := hstage ▸ hfinished
    by_cases hidle : run.session.pending = []
    · rw [proceed_of_idle idle hfinished hidle,
        proceed_of_idle idle hfinished' (hpending.trans hidle)]
      exact h.stop _
    · rw [proceed_of_pending idle hfinished hidle,
        proceed_of_pending idle hfinished' (hpending ▸ hidle)]
      exact ⟨h.policy_eq, rfl, (h.enter .running).session⟩

lemma resume (h : run.Agrees run') (callback : Callback) :
    (run.resume callback).Agrees (run'.resume callback) := by
  cases callback with
  | prepare => exact h.enter .awaitingTestCount
  | start => exact h.proceed _
  | testEnded entry => exact h.proceed _

variable (policy : Scorer σ)

lemma call (h : run.Agrees run') (callback : Callback) :
    (run.call policy callback).Agrees (run'.call policy callback) := by
  have htalk : run'.talk policy callback = run.talk policy callback := by
    rw [talk, talk, h.session.view_eq, h.policy_eq]
  obtain ⟨-, hvalue, hsession⟩ :=
    (run.talk policy callback).run_simulates simulates_agrees h.session
  have hleft : (run.left policy callback).Agrees (run'.left policy callback) := by
    refine ⟨?_, h.status_eq, ?_⟩
    · simp only [left, htalk, hvalue]
    · simpa only [left, htalk] using hsession
  rw [call_eq_left, call_eq_left, htalk, ← hvalue]
  cases ((run.talk policy callback).run Session.answer run.session).1.1 with
  | error fault => exact hleft.stop _
  | ok => exact hleft.resume callback

lemma take_call (h : run.Agrees run') (callback : Callback) {s t : Session} (hst : s.Agrees t) :
    (run.take policy (.call callback s)).Agrees (run'.take policy (.call callback t)) := by
  have hcalled : ({ run with session := s } : Run σ).Agrees { run' with session := t } :=
    ⟨h.policy_eq, h.status_eq, hst⟩
  exact hcalled.call policy callback

/-- The driver decides alike on what it hears, and goes on alike. -/
lemma hear (h : run.Agrees run') (heard : Heard) :
    (run.hear Session.answer policy heard).Agrees (run'.hear Session.answer policy heard) := by
  rw [hear_eq_take, hear_eq_take]
  have hsession := h.session
  rcases hstatus : run.status with _ | _ | result
  · have hstatus' := h.status_eq.trans hstatus
    rcases heard with ((_ | line) | _)
    · simp only [turn, hstatus, hstatus']
      exact h.stop _
    · simp only [turn, hstatus, hstatus']
      cases Text.word? line with
      | none => exact h.stop _
      | some tests =>
        dsimp only
        split
        · exact h.stop _
        · exact h.take_call policy .start ⟨rfl, rfl, hsession.pending_eq, hsession.log_eq,
            hsession.control_eq, hsession.written_eq⟩
    · simp only [turn, hstatus, hstatus']
      exact h.stop _
  · have hstatus' := h.status_eq.trans hstatus
    rcases heard with ((_ | line) | _)
    · simp only [turn, hstatus, hstatus']
      exact h.stop _
    · simp only [turn, hstatus, hstatus', hsession.tests_eq, hsession.pending_eq]
      cases Notification.parse line with
      | error fault => exact h.stop _
      | ok result =>
        dsimp only
        split
        · exact h.stop _
        · split
          · exact h.stop _
          · have hrecord := hsession.record (.delivered result)
            exact h.take_call policy _ ⟨hrecord.stage_eq, hrecord.tests_eq,
              congrArg (List.erase · result.test) hsession.pending_eq, hrecord.log_eq,
              hrecord.control_eq, hrecord.written_eq⟩
    · simp only [turn, hstatus, hstatus', hsession.pending_eq]
      exact h.stop _
  · simp only [turn, hstatus, h.status_eq.trans hstatus]
    exact h

lemma listen (h : run.Agrees run') (said : List Heard) :
    (run.listen policy said).Agrees (run'.listen policy said) := by
  induction said generalizing run run' with
  | nil => exact h
  | cons heard said ih => exact ih (h.hear policy heard)

end Agrees

end Run

lemma judgeUntil_agrees (policy : Scorer σ) (state : σ) {health health' : PerPipe Health}
    (hcontrol : health'.control = health.control) (said : List Heard) :
    (judgeUntil policy state { health } said).Agrees
      (judgeUntil policy state { health := health' } said) := by
  have hstart : ({ policy := state, session := { health }, status := .counting } : Run σ).Agrees
      { policy := state, session := { health := health' }, status := .counting } :=
    ⟨rfl, rfl, rfl, rfl, rfl, rfl, hcontrol, rfl⟩
  exact (hstart.call policy .prepare).listen policy said

/-! ### What fails on the control channel -/

/-- Whether a session is in the state that another is in, whatever it wrote since. -/
structure Session.InStateOf (s' s : Session) : Prop where
  stage_eq : s'.stage = s.stage
  tests_eq : s'.tests = s.tests
  pending_eq : s'.pending = s.pending
  log_eq : s'.log = s.log

/-- A request that is not granted leaves the state of the session. -/
lemma Attempt.inStateOf {s s' : Session} {request : Request} {fault : Fault}
    (h : Attempt s request (.error fault) s') : s'.InStateOf s := by
  cases h with
  | settled heffect hdelivers =>
    cases heffect with
    | refused request fault => exact ⟨rfl, rfl, rfl, rfl⟩
  | torn hmessage cause htext count hopen hnot => exact ⟨rfl, rfl, rfl, rfl⟩

/-- Of a request that is not granted, at most a beginning of its message arrives. -/
lemma Attempt.written_of_error {s s' : Session} {request : Request} {fault : Fault}
    (h : Attempt s request (.error fault) s') :
    ∃ text, text.toList <+: request.text.toList ∧
      s'.written .control = s.written .control ++ text := by
  cases h with
  | settled heffect hdelivers =>
    cases heffect with
    | refused request fault => exact ⟨"", List.nil_prefix, String.append_empty.symm⟩
  | @torn response hmessage cause text htext count hopen hnot =>
    refine ⟨text, ?_, rfl⟩
    rwa [Request.text, hmessage]

/-- A message that cannot be written and flushed is not granted. -/
lemma Attempt.result_of_not_delivers {s s' : Session} {request : Request}
    {result : Except Fault Unit} (h : Attempt s request result s') {response : Response}
    (hmessage : request.message? = some response)
    (hnot : ¬s.health.control.Delivers response.pieces.length) :
    ∃ fault, result = .error fault := by
  cases h with
  | settled heffect hdelivers =>
    cases result with
    | error fault => exact ⟨fault, rfl⟩
    | ok => exact absurd (hdelivers response rfl hmessage) hnot
  | torn hmessage cause htext count hopen hnot => exact ⟨_, rfl⟩

/-- What is asked for is not granted if its message does not get through. If it is not granted it
leaves the state of the session, and at most a beginning of its message. -/
lemma Move.of_asked {step : Step} (h : Move step) {request : Request} {reply : Reply}
    (hcause : step.cause = .asked request reply) :
    (∀ response, request.message? = some response →
      ¬step.before.health.control.Delivers response.pieces.length →
        ∃ fault, reply.result = .error fault) ∧
    ∀ fault, reply.result = .error fault → step.after.InStateOf step.before ∧
      ∃ text, text.toList <+: request.text.toList ∧
        step.after.written .control = step.before.written .control ++ text := by
  have hattempt := attempt_of_perform (h.perform_eq hcause)
  refine ⟨fun response hmessage => hattempt.result_of_not_delivers hmessage, fun fault hfault => ?_⟩
  rw [hfault] at hattempt
  exact ⟨hattempt.inStateOf, hattempt.written_of_error⟩

/-! ### The final message -/

/-- Whether a step ends the session: its final message is asked for, written whole, and flushed. -/
structure Step.Finishes (step : Step) (score : UInt32) (full : Bool) (log : JudgeLog) : Prop where
  granted : ∃ view, step.cause = .asked (.finish score full log) ⟨.ok (), view⟩
  delivers :
    step.before.health.control.Delivers (Response.finish score full log).pieces.length
  written : step.after.written .control =
    step.before.written .control ++ (Response.finish score full log).render

lemma Effect.exists_finish {s s' : Session} {request : Request} {result : Except Fault Unit}
    (h : Effect s request result s') (hs : s.stage ≠ .finished) (hs' : s'.stage = .finished) :
    ∃ score full log, request = .finish score full log ∧ result = .ok () ∧
      s'.written .control = s.written .control ++ (Response.finish score full log).render := by
  cases h with
  | finished score full log hopen hlog => exact ⟨score, full, log, rfl, rfl, rfl⟩
  | _ => exact absurd hs' hs

/-- Only a final message that was written and flushed makes a session finished. -/
lemma Move.finishes {step : Step} (h : Move step) (hbefore : step.before.stage ≠ .finished)
    (hafter : step.after.stage = .finished) : ∃ score full log, step.Finishes score full log := by
  cases h with
  | asked hperform =>
    cases attempt_of_perform hperform with
    | settled heffect hdelivers =>
      obtain ⟨score, full, log, rfl, rfl, hwritten⟩ := heffect.exists_finish hbefore hafter
      exact ⟨score, full, log, ⟨_, rfl⟩, hdelivers _ rfl rfl, hwritten⟩
    | torn hmessage cause htext count hopen hnot => exact absurd hafter hbefore
  | ruled hrule hcause =>
    cases hrule with
    | asked heffect => exact absurd rfl (hcause _ _)
    | start s tests hstage => cases hafter
    | prepared s hstage => cases hafter
    | continued s hopen => cases hafter
    | _ => exact absurd hafter hbefore

/-- Whether a session is finished and this is all that it put on the control channel. -/
def Session.IsClosed (text : String) (s : Session) : Prop :=
  s.stage = .finished ∧ s.written .control = text

lemma Session.IsClosed.not_isOpen {s : Session} {text : String} (h : s.IsClosed text) :
    s.isOpen ≠ true := by
  rw [Session.isOpen, h.1]
  decide

/-- Nothing is put on the control channel of a finished session. -/
lemma Move.isClosed {step : Step} (h : Move step) {text : String}
    (hbefore : step.before.IsClosed text) : step.after.IsClosed text := by
  have hnot := hbefore.not_isOpen
  cases h with
  | asked hperform =>
    cases attempt_of_perform hperform with
    | settled heffect hdelivers =>
      cases heffect with
      | refused request fault => exact hbefore
      | selected test live hopen hfirst hlast hnew => exact absurd hopen hnot
      | scored score hopen => exact absurd hopen hnot
      | finished score full log hopen hlog => exact absurd hopen hnot
      | commented audience text health written hcontrol =>
        refine ⟨hbefore.1, Eq.trans ?_ hbefore.2⟩
        cases audience <;> exact String.append_empty
      | kept log => exact hbefore
    | torn hmessage cause htext count hopen hdelivers => exact absurd hopen hnot
  | ruled hrule hcause =>
    cases hrule with
    | asked heffect => exact absurd rfl (hcause _ _)
    | prepare s => exact hbefore
    | start s tests hstage => cases hstage.symm.trans hbefore.1
    | testEnded s result hpending => exact ⟨hbefore.1, String.append_empty.trans hbefore.2⟩
    | stopped s => exact hbefore
    | prepared s hstage => cases hstage.symm.trans hbefore.1
    | continued s hopen => exact absurd hopen hnot
    | finished s health hcontrol => exact hbefore

/-- A property that was won on the way was won by some step. -/
lemma Leads.exists_step {P : Session → Prop} {s s' : Session} {steps : List Step}
    (h : Leads s steps s') (hs : ¬P s) (hs' : P s') :
    ∃ early step late, steps = early ++ step :: late ∧ ¬P step.before ∧ P step.after ∧
      Leads step.after late s' := by
  induction steps generalizing s with
  | nil => exact absurd (h ▸ hs') hs
  | cons step steps ih =>
    obtain ⟨rfl, hrest⟩ := h
    by_cases hafter : P step.after
    · exact ⟨[], step, steps, rfl, hs, hafter, hrest⟩
    · obtain ⟨early, step', late, rfl, hstep⟩ := ih hrest hafter
      exact ⟨step :: early, step', late, rfl, hstep⟩

/-- **Failures on the channels.** Let any writes and flushes fail. Which ones fail on the comment
channels makes no difference to what is written to the control channel and to the result. A request
is not granted if one of the lines of its message is not written, or they are not flushed; and a
request that is not granted leaves the state of the session, and on the control channel at most a
beginning of its message. Judging ends well only with a finished session, and at whatever point of
it the session is finished, a step before ended it with a final message that was written whole and
flushed, and what is on the control channel then is all that will be. -/
theorem judge_of_broken (policy : Scorer σ) (state : σ) (health : PerPipe Health)
    (input : List UInt8) :
    let run := (judge Session.answer policy state { health } input).1
    let steps := stepsUntil policy state { health } (heards input)
    (∀ health' : PerPipe Health, health'.control = health.control →
      let run' := (judge Session.answer policy state { health := health' } input).1
      run'.status = run.status ∧ run'.session.written .control = run.session.written .control) ∧
    Leads { health } steps run.session ∧
    (∀ step ∈ steps, ∀ request reply, step.cause = .asked request reply →
      (∀ response, request.message? = some response →
        ¬step.before.health.control.Delivers response.pieces.length →
          ∃ fault, reply.result = .error fault) ∧
      ∀ fault, reply.result = .error fault → step.after.InStateOf step.before ∧
        ∃ text, text.toList <+: request.text.toList ∧
          step.after.written .control = step.before.written .control ++ text) ∧
    (run.status = .over (.ok ()) → run.session.stage = .finished) ∧
    ∀ done rest s, steps = done ++ rest → Leads { health } done s → s.stage = .finished →
      ∃ early step late score full log, done = early ++ step :: late ∧
        step.Finishes score full log ∧
        run.session.written .control = step.after.written .control ∧
        ∀ later ∈ late ++ rest, later.after.written .control = step.after.written .control := by
  intro run steps
  have hrun : run = judgeUntil policy state { health } (heards input) :=
    judge_eq_judgeUntil policy state { health } input
  have hleads : Leads { health } steps run.session :=
    hrun ▸ leads_stepsUntil policy state { health } (heards input)
  have hmoves : ∀ step ∈ steps, Move step :=
    move_stepsUntil policy state { health } rfl (heards input)
  refine ⟨fun health' hcontrol => ?_, hleads, fun step hmem request reply =>
    (hmoves step hmem).of_asked, fun hover => ?_, fun done rest s hdone hs hfinished => ?_⟩
  · rw [hrun, judge_eq_judgeUntil]
    have hagrees := judgeUntil_agrees policy state hcontrol (heards input)
    exact ⟨hagrees.status_eq, hagrees.session.written_eq⟩
  · rw [hrun] at hover ⊢
    exact (poised_judgeUntil policy state { health } rfl (heards input)).ended hover
  · obtain ⟨early, step, late, rfl, hbefore, hafter, -⟩ :=
      hs.exists_step (P := fun s => s.stage = .finished) nofun hfinished
    have hsteps : steps = early ++ step :: (late ++ rest) := by
      rw [hdone, List.append_assoc, List.cons_append]
    have hmem : ∀ later ∈ step :: (late ++ rest), Move later := fun later hlater =>
      hmoves later (hsteps ▸ List.mem_append_right early hlater)
    obtain ⟨score, full, log, hfinishes⟩ := (hmem step List.mem_cons_self).finishes hbefore hafter
    -- from there on nothing can be sent any more
    obtain ⟨-, -, -, hrest⟩ := (hsteps ▸ hleads).exists_between
    obtain ⟨hall, hlast⟩ := hrest.invariant
      (P := Session.IsClosed (step.after.written .control)) ⟨hafter, rfl⟩
      fun later hlater => (hmem later (List.mem_cons_of_mem step hlater)).isClosed
    exact ⟨early, step, late, score, full, log, rfl, hfinishes, hlast.2,
      fun later hlater => (hall later hlater).2.2⟩

/-- A policy that asks twice for everything gets through over a control channel on which the first
flush fails, and the second line of the first final message, and the broken comment channels do not
matter. -/
theorem judge_of_broken_insistent :
    let policy : Scorer Unit :=
      { start := fun _ _ => do
          discard <| Talk.select 1 true
          return (← Talk.select 1 true, ())
        testEnded := fun _ _ _ => do
          Talk.comment .contestant "done"
          discard <| Talk.finish 7 false {}
          return (← Talk.finish 7 false {}, ()) }
    let control : Health :=
      { breakage := fun op n =>
          if op = .flush ∧ n = 1 ∨ op = .write ∧ n = 5 then
            some { cause := .brokenChannel, taken := 1 }
          else none }
    let health : PerPipe Health := ⟨control, .broken .noSpace, .broken .noSpace⟩
    let input := Utf8.encode "1\n1 Accepted OK\n"
    let run := (judge Session.answer policy () { health } input).1
    let sound := (judge Session.answer policy () { health := ⟨control, .sound, .sound⟩ } input).1
    run.session.written .control = "RUN 1 1\nRUN 1 1\nDONE 7 0\n0DONE 7 0\n0\n0\n" ∧
      sound.session.written .control = run.session.written .control ∧
      ∃ step ∈ stepsUntil policy () { health } (heards input), ∃ score full log,
        step.Finishes score full log ∧
          run.session.written .control = step.after.written .control := by
  intro policy control health input run sound
  obtain ⟨hcomments, hleads, -, -, hfinished⟩ := judge_of_broken policy () health input
  have hsound := hcomments ⟨control, .sound, .sound⟩ rfl
  have hstage : run.session.stage = .finished := by decide +kernel
  obtain ⟨early, step, late, score, full, log, hsteps, hfinishes, hlast, -⟩ :=
    hfinished _ [] run.session (List.append_nil _).symm hleads hstage
  have hmem : step ∈ stepsUntil policy () { health } (heards input) := by
    rw [hsteps]
    exact List.mem_append_right early List.mem_cons_self
  exact ⟨by decide +kernel, hsound.2, step, hmem, score, full, log, hfinishes, hlast⟩

end Jury.Valuer
