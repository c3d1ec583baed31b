import Jury.Proofs.Valuer.Heard
import Jury.Proofs.Valuer.Requests
import Jury.Valuer.Talk

/-!
# The steps of judging

Judging as a list of steps, each with the session before and after it: the driver calls the
policy, the policy makes a request, the driver takes over again. What the driver makes of what it
hears is a `Turn`, which does not depend on the policy. The steps of a run lead from the session it
is begun with to the session it ends with.
-/

namespace Jury

namespace Valuer

open Jury.Control

variable {σ α : Type}

/-! ### The driver's turns -/

/-- What a policy is called for, with what it is told. -/
inductive Callback where
  | prepare
  | start
  | testEnded (entry : TestEntry)
  deriving DecidableEq, Repr

def Callback.occasion : Callback → Occasion
  | prepare => .prepare
  | start => .start
  | testEnded _ => .testEnded

def Policy.respond (policy : Scorer σ) : Callback → View → σ → Talk (Except Fault Unit × σ)
  | .prepare => policy.prepare
  | .start => policy.start
  | .testEnded entry => policy.testEnded entry

/-- What the driver makes of what it hears. -/
inductive Turn where
  /-- Judging is over, and nothing is heard. -/
  | none
  /-- Judging ends with a fault. -/
  | fault (fault : Fault)
  /-- The policy is called, and finds this session. -/
  | call (callback : Callback) (session : Session)

namespace Run

/-- Goes on after a callback that raised no fault. -/
def resume (callback : Callback) (run : Run σ) : Run σ :=
  match callback with
  | .prepare => run.enter .awaitingTestCount
  | .start => run.proceed .nothingSelected
  | .testEnded entry => run.proceed (.stalled entry.test)

/-- Calls the policy and goes on. -/
def call (policy : Scorer σ) (callback : Callback) (run : Run σ) : Run σ :=
  match run.consult Session.answer callback.occasion (policy.respond callback) with
  | (.error fault, run) => run.stop (.error fault)
  | (.ok (), run) => run.resume callback

/-- What the driver makes of what it hears in this state. -/
def turn (run : Run σ) (heard : Heard) : Turn :=
  match run.status, heard with
  | .over _, _ => .none
  | _, .line none => .fault (.io .notUtf8)
  | .counting, .ended => .fault (.protocol .closedBeforeCount)
  | .judging, .ended => .fault (.protocol (.closedWhileOutstanding run.session.pending.length))
  | .counting, .line (some line) =>
    match Text.word? line with
    | none => .fault (.protocol (.countNotNumber line))
    | some tests =>
      if tests = 0 then .fault (.protocol .noTests)
      else .call .start { run.session with tests, stage := .awaitingBegin }
  | .judging, .line (some line) =>
    match Notification.parse line with
    | .error fault => .fault fault
    | .ok result =>
      if result.test < 1 ∨ run.session.tests < result.test then
        .fault (.protocol (.resultOutOfRange result.test run.session.tests))
      else if !run.session.pending.contains result.test then
        .fault (.protocol (.resultNotPending result.test))
      else .call (.testEnded result.entry) (run.deliver result).session

def take (policy : Scorer σ) (run : Run σ) : Turn → Run σ
  | .none => run
  | .fault fault => run.stop (.error fault)
  | .call callback session => { run with session }.call policy callback

lemma begin_eq_call (policy : Scorer σ) (state : σ) (session : Session) :
    Run.begin Session.answer policy state session =
      ({ policy := state, session, status := .counting } : Run σ).call policy .prepare :=
  rfl

/-- Hearing is deciding on a turn and taking it. -/
lemma hear_eq_take (policy : Scorer σ) (run : Run σ) (heard : Heard) :
    run.hear Session.answer policy heard = run.take policy (run.turn heard) := by
  obtain ⟨state, session, status, consultations⟩ := run
  match status with
  | .over result => rfl
  | .counting =>
    rcases heard with ((_ | line) | _)
    · rfl
    · simp only [hear, turn, hearCount]
      cases Text.word? line with
      | none => rfl
      | some tests => dsimp only; split <;> rfl
    · rfl
  | .judging =>
    rcases heard with ((_ | line) | _)
    · rfl
    · simp only [hear, turn, hearResult]
      cases Notification.parse line with
      | error fault => rfl
      | ok result =>
        dsimp only
        split
        · rfl
        · split <;> rfl
    · rfl

def listen (policy : Scorer σ) (run : Run σ) (said : List Heard) : Run σ :=
  said.foldl (fun run heard => run.hear Session.answer policy heard) run

@[simp]
lemma listen_nil (policy : Scorer σ) (run : Run σ) : run.listen policy [] = run :=
  rfl

@[simp]
lemma listen_cons (policy : Scorer σ) (run : Run σ) (heard : Heard) (said : List Heard) :
    run.listen policy (heard :: said) =
      (run.hear Session.answer policy heard).listen policy said :=
  rfl

lemma listen_append (policy : Scorer σ) (run : Run σ) (said rest : List Heard) :
    run.listen policy (said ++ rest) = (run.listen policy said).listen policy rest :=
  List.foldl_append

/-- Once judging is over, nothing that is said changes anything. -/
lemma listen_of_over (policy : Scorer σ) {run : Run σ} {result : Except Fault Unit}
    (h : run.status = .over result) (said : List Heard) : run.listen policy said = run := by
  induction said with
  | nil => rfl
  | cons heard said ih => simp only [listen_cons, hear_eq_take, turn, h, take, ih]

end Run

lemma hearAll_eq_listen (policy : Scorer σ) (run : Run σ) (left : Nat) (lines : List Line) :
    (run.hearAll Session.answer policy left lines).1 =
      run.listen policy (lines.map (fun line => .line line.text) ++ [.ended]) := by
  induction lines generalizing run left with
  | nil =>
    match hstatus : run.status with
    | .over result =>
      rw [Run.listen_of_over policy hstatus, Run.hearAll, hstatus]
    | .counting => simp [Run.hearAll, hstatus]
    | .judging => simp [Run.hearAll, hstatus]
  | cons line lines ih =>
    match hstatus : run.status with
    | .over result =>
      rw [Run.listen_of_over policy hstatus, Run.hearAll, hstatus]
    | .counting => simp [Run.hearAll, hstatus, ih]
    | .judging => simp [Run.hearAll, hstatus, ih]

/-! ### Steps -/

/-- Why a session changes. -/
inductive Cause where
  /-- The driver calls the policy. -/
  | called (callback : Callback)
  /-- The policy makes a request and is answered. -/
  | asked (request : Request) (reply : Reply)
  /-- The driver takes over after a callback. -/
  | resumed

/-- One step of judging. -/
structure Step where
  before : Session
  cause : Cause
  after : Session

def Talk.steps : Talk α → Session → List Step
  | .done _, _ => []
  | .ask request next, s =>
    ⟨s, .asked request (s.answer request).1, (s.answer request).2⟩ ::
      Talk.steps (next (s.answer request).1) (s.answer request).2

namespace Run

/-- The dialogue that a callback begins. -/
def talk (policy : Scorer σ) (callback : Callback) (run : Run σ) : Talk (Except Fault Unit × σ) :=
  policy.respond callback run.session.view run.policy

/-- What a callback leaves. -/
def left (policy : Scorer σ) (callback : Callback) (run : Run σ) : Run σ :=
  let ((_, state), session) := (run.talk policy callback).run Session.answer run.session
  { run with
    policy := state
    session
    consultations := ⟨callback.occasion, run.session, session⟩ :: run.consultations }

lemma call_eq_left (policy : Scorer σ) (callback : Callback) (run : Run σ) :
    run.call policy callback =
      match ((run.talk policy callback).run Session.answer run.session).1.1 with
      | .error fault => (run.left policy callback).stop (.error fault)
      | .ok () => (run.left policy callback).resume callback := by
  simp only [call, consult, left, talk]
  generalize (policy.respond callback run.session.view run.policy).run Session.answer
    run.session = outcome
  obtain ⟨⟨result, state⟩, session⟩ := outcome
  cases result <;> rfl

lemma call_of_run (policy : Scorer σ) (callback : Callback) (run : Run σ)
    {result : Except Fault Unit} {state : σ} {session : Session}
    (h : (run.talk policy callback).run Session.answer run.session = ((result, state), session)) :
    ∃ consultations, run.call policy callback =
      match result with
      | .error fault =>
        ({ policy := state, session, status := run.status, consultations } : Run σ).stop
          (.error fault)
      | .ok () =>
        ({ policy := state, session, status := run.status, consultations } : Run σ).resume
          callback := by
  rw [call_eq_left, left, h]
  exact ⟨_, rfl⟩

/-- The steps of calling the policy and going on. -/
def callSteps (policy : Scorer σ) (callback : Callback) (run : Run σ) : List Step :=
  (run.talk policy callback).steps run.session ++
    [⟨(run.left policy callback).session, .resumed, (run.call policy callback).session⟩]

def turnSteps (policy : Scorer σ) (run : Run σ) : Turn → List Step
  | .none => []
  | .fault _ => []
  | .call callback session =>
    ⟨run.session, .called callback, session⟩ :: { run with session }.callSteps policy callback

def hearSteps (policy : Scorer σ) (run : Run σ) (heard : Heard) : List Step :=
  run.turnSteps policy (run.turn heard)

def listenSteps (policy : Scorer σ) (run : Run σ) : List Heard → List Step
  | [] => []
  | heard :: said =>
    run.hearSteps policy heard ++ (run.hear Session.answer policy heard).listenSteps policy said

lemma listenSteps_append (policy : Scorer σ) (run : Run σ) (said rest : List Heard) :
    run.listenSteps policy (said ++ rest) =
      run.listenSteps policy said ++ (run.listen policy said).listenSteps policy rest := by
  induction said generalizing run with
  | nil => rfl
  | cons heard said ih =>
    rw [List.cons_append, listenSteps, listenSteps, ih, List.append_assoc, listen_cons]

lemma listenSteps_of_over (policy : Scorer σ) {run : Run σ} {result : Except Fault Unit}
    (h : run.status = .over result) (said : List Heard) : run.listenSteps policy said = [] := by
  induction said with
  | nil => rfl
  | cons heard said ih =>
    simp only [listenSteps, hearSteps, hear_eq_take, turn, h, take, turnSteps, ih,
      List.append_nil]

end Run

/-- Judging after this much was heard. -/
def judgeUntil (policy : Scorer σ) (state : σ) (session : Session) (said : List Heard) : Run σ :=
  (Run.begin Session.answer policy state session).listen policy said

/-- The steps of judging until this much was heard. -/
def stepsUntil (policy : Scorer σ) (state : σ) (session : Session) (said : List Heard) :
    List Step :=
  ⟨session, .called .prepare, session⟩ ::
    (({ policy := state, session, status := .counting } : Run σ).callSteps policy .prepare ++
      (Run.begin Session.answer policy state session).listenSteps policy said)

lemma judgeUntil_append (policy : Scorer σ) (state : σ) (session : Session)
    (said rest : List Heard) :
    judgeUntil policy state session (said ++ rest) =
      (judgeUntil policy state session said).listen policy rest :=
  Run.listen_append policy _ said rest

lemma stepsUntil_append (policy : Scorer σ) (state : σ) (session : Session)
    (said rest : List Heard) :
    stepsUntil policy state session (said ++ rest) =
      stepsUntil policy state session said ++
        (judgeUntil policy state session said).listenSteps policy rest := by
  rw [stepsUntil, Run.listenSteps_append, ← List.append_assoc, ← List.cons_append]
  rfl

/-- Judging is hearing all that is said. -/
lemma judge_eq_judgeUntil (policy : Scorer σ) (state : σ) (session : Session)
    (input : List UInt8) :
    (judge Session.answer policy state session input).1 =
      judgeUntil policy state session (heards input) :=
  hearAll_eq_listen policy _ _ _

/-! ### Steps lead from the first session to the last -/

/-- Whether steps lead from one session to another, each beginning where the one before ended. -/
def Leads (s : Session) : List Step → Session → Prop
  | [], s' => s = s'
  | step :: steps, s' => step.before = s ∧ Leads step.after steps s'

lemma Leads.append {s s' s'' : Session} {steps steps' : List Step} (h : Leads s steps s')
    (h' : Leads s' steps' s'') : Leads s (steps ++ steps') s'' := by
  induction steps generalizing s with
  | nil => exact h ▸ h'
  | cons step steps ih => exact ⟨h.1, ih h.2⟩

lemma Leads.exists_between {s s' : Session} {steps steps' : List Step}
    (h : Leads s (steps ++ steps') s') : ∃ s₁, Leads s steps s₁ ∧ Leads s₁ steps' s' := by
  induction steps generalizing s with
  | nil => exact ⟨s, rfl, h⟩
  | cons step steps ih =>
    obtain ⟨hbefore, hrest⟩ := h
    obtain ⟨s₁, hsteps, hsteps'⟩ := ih hrest
    exact ⟨s₁, ⟨hbefore, hsteps⟩, hsteps'⟩

/-- What every step preserves holds before and after every step. -/
lemma Leads.invariant {P : Session → Prop} {s s' : Session} {steps : List Step}
    (h : Leads s steps s') (hs : P s)
    (hstep : ∀ step ∈ steps, P step.before → P step.after) :
    (∀ step ∈ steps, P step.before ∧ P step.after) ∧ P s' := by
  induction steps generalizing s with
  | nil => exact ⟨fun _ hmem => absurd hmem List.not_mem_nil, h ▸ hs⟩
  | cons step steps ih =>
    obtain ⟨rfl, hrest⟩ := h
    have hafter := hstep step List.mem_cons_self hs
    obtain ⟨hall, hlast⟩ := ih hrest hafter fun t ht => hstep t (List.mem_cons_of_mem step ht)
    refine ⟨fun t ht => ?_, hlast⟩
    rcases List.mem_cons.mp ht with rfl | ht
    · exact ⟨hs, hafter⟩
    · exact hall t ht

lemma leads_talk (talk : Talk α) (s : Session) :
    Leads s (talk.steps s) (talk.run Session.answer s).2 := by
  induction talk generalizing s with
  | done value => rfl
  | ask request next ih => exact ⟨rfl, ih _ _⟩

lemma leads_call (policy : Scorer σ) (callback : Callback) (run : Run σ) :
    Leads run.session (run.callSteps policy callback) (run.call policy callback).session :=
  (leads_talk _ _).append ⟨rfl, rfl⟩

lemma leads_turn (policy : Scorer σ) (run : Run σ) (turn : Turn) :
    Leads run.session (run.turnSteps policy turn) (run.take policy turn).session := by
  cases turn with
  | none => rfl
  | fault fault => rfl
  | call callback session => exact ⟨rfl, leads_call policy callback { run with session }⟩

lemma leads_listen (policy : Scorer σ) (run : Run σ) (said : List Heard) :
    Leads run.session (run.listenSteps policy said) (run.listen policy said).session := by
  induction said generalizing run with
  | nil => rfl
  | cons heard said ih =>
    have hturn := leads_turn policy run (run.turn heard)
    rw [← Run.hear_eq_take] at hturn
    exact hturn.append (ih _)

/-- The steps of judging lead from the first session to the last. -/
theorem leads_stepsUntil (policy : Scorer σ) (state : σ) (session : Session) (said : List Heard) :
    Leads session (stepsUntil policy state session said)
      (judgeUntil policy state session said).session := by
  rw [stepsUntil, judgeUntil, Run.begin_eq_call]
  have hcall := leads_call policy .prepare { policy := state, session, status := .counting }
  exact ⟨rfl, hcall.append (leads_listen policy _ _)⟩

end Valuer

end Jury
