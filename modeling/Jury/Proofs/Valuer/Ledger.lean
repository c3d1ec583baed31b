import Jury.Proofs.Valuer.Rules

/-!
# The ledger of a session

The messages that a session sent are those of the requests it granted, and the entries it handed
out are those the policy was called with. Since a request puts its test among the pending ones and
a result takes it away, a test is pending when it was asked for once more than it was answered.
-/

namespace Jury.Valuer

open Jury.Control

/-! ### The ledger of a row of steps -/

/-- The message of a step that grants a request. -/
def Step.granted? (step : Step) : Option Response :=
  match step.cause with
  | .asked request ⟨.ok (), _⟩ => request.message?
  | _ => none

/-- The entry that a step hands to the policy. -/
def Step.entry? (step : Step) : Option TestEntry :=
  match step.cause with
  | .called (.testEnded entry) => some entry
  | _ => none

lemma Effect.sent_eq {s s' : Session} {request : Request} {result : Except Fault Unit}
    (h : Effect s request result s') :
    s'.sent = s.sent ++ (Step.granted? ⟨s, .asked request ⟨result, s'.view⟩, s'⟩).toList := by
  cases h with
  | refused fault => exact (List.append_nil _).symm
  | selected test live hopen hfirst hlast hnew => exact Session.sent_of_history (.sent _) rfl
  | scored score hopen => exact Session.sent_of_history (.sent _) rfl
  | finished score full log hopen hlog => exact Session.sent_of_history (.sent _) rfl
  | commented audience text health written hcontrol =>
    exact Session.sent_of_history (.commented _ _) rfl
  | kept log => exact (List.append_nil _).symm

lemma Effect.handed_eq {s s' : Session} {request : Request} {result : Except Fault Unit}
    (h : Effect s request result s') : s'.handed = s.handed := by
  rw [← List.append_nil s.handed]
  cases h with
  | refused fault => exact (List.append_nil _).symm
  | kept log => exact (List.append_nil _).symm
  | selected test live hopen hfirst hlast hnew => exact Session.handed_of_history (.sent _) rfl
  | scored score hopen => exact Session.handed_of_history (.sent _) rfl
  | finished score full log hopen hlog => exact Session.handed_of_history (.sent _) rfl
  | commented audience text health written hcontrol =>
    exact Session.handed_of_history (.commented _ _) rfl

/-- A step sends the message that it grants, and nothing else. -/
lemma Rule.sent_eq {step : Step} (h : Rule step) :
    step.after.sent = step.before.sent ++ step.granted?.toList := by
  cases h with
  | asked heffect => exact heffect.sent_eq
  | testEnded s result hpending => exact Session.sent_of_history (.delivered result) rfl
  | _ => exact (List.append_nil _).symm

/-- A step hands out the entry that the policy is called with, and nothing else. -/
lemma Rule.handed_eq {step : Step} (h : Rule step) :
    step.after.handed = step.before.handed ++ step.entry?.toList := by
  cases h with
  | asked heffect => exact heffect.handed_eq.trans (List.append_nil _).symm
  | testEnded s result hpending => exact Session.handed_of_history (.delivered result) rfl
  | _ => exact (List.append_nil _).symm

lemma Leads.sent_eq {s s' : Session} {steps : List Step} (h : Leads s steps s')
    (hrules : ∀ step ∈ steps, Rule step) :
    s'.sent = s.sent ++ steps.filterMap Step.granted? := by
  induction steps generalizing s with
  | nil => exact h ▸ (List.append_nil _).symm
  | cons step steps ih =>
    obtain ⟨rfl, hrest⟩ := h
    obtain ⟨hstep, hsteps⟩ := List.forall_mem_cons.mp hrules
    rw [ih hrest hsteps, hstep.sent_eq]
    cases hgranted : step.granted? <;> simp [hgranted]

lemma Leads.handed_eq {s s' : Session} {steps : List Step} (h : Leads s steps s')
    (hrules : ∀ step ∈ steps, Rule step) :
    s'.handed = s.handed ++ steps.filterMap Step.entry? := by
  induction steps generalizing s with
  | nil => exact h ▸ (List.append_nil _).symm
  | cons step steps ih =>
    obtain ⟨rfl, hrest⟩ := h
    obtain ⟨hstep, hsteps⟩ := List.forall_mem_cons.mp hrules
    rw [ih hrest hsteps, hstep.handed_eq]
    cases hentry : step.entry? <;> simp [hentry]

/-! ### Whole messages -/

namespace Session

/-- Whether every message in the history is whole. -/
def IsWhole (s : Session) : Prop :=
  ∀ event ∈ s.history, event.IsWhole

lemma IsWhole.of_history {s s' : Session} (hs : s.IsWhole) (event : Event)
    (hevent : event.IsWhole) (h : s'.history = event :: s.history) : s'.IsWhole := by
  rw [IsWhole, h]
  exact List.forall_mem_cons.mpr ⟨hevent, hs⟩

end Session

lemma Rule.isWhole {step : Step} (h : Rule step) (hs : step.before.IsWhole) :
    step.after.IsWhole := by
  cases h with
  | asked heffect =>
    cases heffect with
    | refused fault => exact hs
    | selected test live hopen hfirst hlast hnew => exact hs.of_history (.sent _) trivial rfl
    | scored score hopen => exact hs.of_history (.sent _) trivial rfl
    | finished score full log hopen hlog => exact hs.of_history (.sent _) trivial rfl
    | commented audience text health written hcontrol =>
      refine hs.of_history (.commented _ _) ?_ rfl
      cases audience <;> exact nofun
    | kept log => exact hs
  | testEnded s result hpending => exact hs.of_history (.delivered _) trivial rfl
  | _ => exact hs

/-! ### Pending tests -/

/-- Whether a message asks for a test. -/
def asksFor (test : UInt32) : Response → Bool
  | .test id _ => id == test
  | _ => false

namespace Session

/-- How often a test was asked for. -/
def requests (s : Session) (test : UInt32) : Nat :=
  s.sent.countP (asksFor test)

/-- How often the policy was told of a test. -/
def answers (s : Session) (test : UInt32) : Nat :=
  s.handed.countP (·.test == test)

/-- Whether the number of tests is still unknown. -/
def IsEarly (s : Session) : Prop :=
  s.stage = .awaitingInit ∨ s.stage = .awaitingTestCount

/-- What holds of the pending tests at every point of judging. -/
structure Balanced (s : Session) : Prop where
  early : s.IsEarly → s.pending = [] ∧ s.sent = []
  nodup : s.pending.Nodup
  range : ∀ test ∈ s.pending, 1 ≤ test ∧ test ≤ s.tests
  balance : ∀ test, s.requests test = s.answers test + if test ∈ s.pending then 1 else 0

lemma balanced_fresh (health : PerPipe Health) : ({ health } : Session).Balanced where
  early _ := ⟨rfl, rfl⟩
  nodup := List.nodup_nil
  range _ hmem := absurd hmem List.not_mem_nil
  balance _ := rfl

/-- What leaves the pending tests and both counts alone keeps the balance. -/
lemma Balanced.congr {s s' : Session} (hs : s.Balanced)
    (hearly : s'.IsEarly → s.IsEarly ∧ s'.sent = s.sent) (hpending : s'.pending = s.pending)
    (htests : s'.tests = s.tests) (hrequests : ∀ test, s'.requests test = s.requests test)
    (hanswers : ∀ test, s'.answers test = s.answers test) : s'.Balanced where
  early h := by
    obtain ⟨hbefore, hsent⟩ := hearly h
    rw [hpending, hsent]
    exact hs.early hbefore
  nodup := hpending ▸ hs.nodup
  range := by
    rw [hpending, htests]
    exact hs.range
  balance test := by rw [hrequests, hanswers, hpending, hs.balance]

lemma not_isEarly_of_isOpen {s : Session} (h : s.isOpen = true) : ¬s.IsEarly := by
  rintro (hinit | hcount)
  · rw [isOpen, hinit] at h
    cases h
  · rw [isOpen, hcount] at h
    cases h

end Session

lemma Rule.requests_eq {step : Step} (h : Rule step) (test : UInt32) :
    step.after.requests test =
      step.before.requests test + step.granted?.toList.countP (asksFor test) := by
  rw [Session.requests, h.sent_eq, List.countP_append, Session.requests]

lemma Rule.answers_eq {step : Step} (h : Rule step) (test : UInt32) :
    step.after.answers test =
      step.before.answers test + step.entry?.toList.countP (·.test == test) := by
  rw [Session.answers, h.handed_eq, List.countP_append, Session.answers]

lemma Effect.balanced {s s' : Session} {request : Request} {result : Except Fault Unit}
    (h : Effect s request result s') (hs : s.Balanced) : s'.Balanced := by
  have hrequests := (Rule.asked h).requests_eq
  have hanswers := (Rule.asked h).answers_eq
  cases h with
  | refused fault => exact hs
  | @selected test live hopen hfirst hlast hnew =>
    refine ⟨fun hearly => absurd hearly (Session.not_isEarly_of_isOpen hopen), ?_, ?_, ?_⟩
    · exact List.nodup_cons.mpr ⟨hnew, hs.nodup⟩
    · exact List.forall_mem_cons.mpr ⟨⟨hfirst, hlast⟩, hs.range⟩
    · intro test'
      rw [hrequests, hanswers, hs.balance]
      by_cases heq : test = test'
      · subst heq
        simp [Step.granted?, Step.entry?, Request.message?, asksFor, hnew]
      · simp [Step.granted?, Step.entry?, Request.message?, asksFor, heq, Ne.symm heq]
  | scored score hopen =>
    refine hs.congr (fun hearly => absurd hearly (Session.not_isEarly_of_isOpen hopen)) rfl rfl
      hrequests hanswers
  | finished score full log hopen hlog =>
    refine hs.congr ?_ rfl rfl hrequests hanswers
    rintro (h | h) <;> cases h
  | commented audience text health written hcontrol =>
    refine hs.congr (fun hearly => ⟨hearly, ?_⟩) rfl rfl hrequests hanswers
    exact (Session.sent_of_history (.commented _ _) rfl).trans (List.append_nil _)
  | kept log => exact hs.congr (fun hearly => ⟨hearly, rfl⟩) rfl rfl hrequests hanswers

/-- Every step keeps the pending tests in balance. -/
lemma Rule.balanced {step : Step} (h : Rule step) (hs : step.before.Balanced) :
    step.after.Balanced := by
  have hrequests := h.requests_eq
  have hanswers := h.answers_eq
  cases h with
  | asked heffect => exact heffect.balanced hs
  | prepare s => exact hs
  | start s tests hstage =>
    obtain ⟨hpending, hsent⟩ := hs.early (.inr hstage)
    refine ⟨?_, hs.nodup, ?_, hs.balance⟩
    · rintro (h | h) <;> cases h
    · intro test hmem
      rw [show s.pending = [] from hpending] at hmem
      cases hmem
  | testEnded s result hpending =>
    refine ⟨fun hearly => ?_, hs.nodup.erase _, ?_, ?_⟩
    · rw [(hs.early hearly).1] at hpending
      cases hpending
    · exact fun test hmem => hs.range test (List.mem_of_mem_erase hmem)
    · intro test
      rw [hrequests, hanswers, hs.balance]
      by_cases heq : result.test = test
      · subst heq
        simp [Step.granted?, Step.entry?, Notification.entry, hpending, hs.nodup.mem_erase_iff]
      · simp [Step.granted?, Step.entry?, Notification.entry, heq, hs.nodup.mem_erase_iff,
          Ne.symm heq]
  | stopped s => exact hs
  | prepared s hstage => exact hs.congr (fun _ => ⟨.inl hstage, rfl⟩) rfl rfl hrequests hanswers
  | continued s hopen =>
    refine hs.congr ?_ rfl rfl hrequests hanswers
    rintro (h | h) <;> cases h
  | finished s health hcontrol =>
    exact hs.congr (fun hearly => ⟨hearly, rfl⟩) rfl rfl hrequests hanswers

end Jury.Valuer
