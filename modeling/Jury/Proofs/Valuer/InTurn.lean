import Jury.Proofs.Valuer.Matching

/-!
# Asking for tests in turn

Policies that have one test pending at a time. While such a policy waits for a test (`Awaits`), the
result of that test leads on, and everything else ends judging with a fault of what was read; so
the results that count are those that come in turn (`InTurn`). A callback that comes down to asking
for the next test leaves it awaited (`call_of_select`), and one that comes down to ending the
session ends judging (`call_of_finish`).
-/

namespace Jury

namespace Dialogue

variable {R A S α β : Type} (answer : R → S → A × S)

lemma run_bind (dialogue : Dialogue R A α) (f : α → Dialogue R A β) (s : S) :
    (dialogue >>= f).run answer s =
      (f (dialogue.run answer s).1).run answer (dialogue.run answer s).2 := by
  induction dialogue generalizing s with
  | done value => rfl
  | ask request next ih => exact ih _ _

end Dialogue

namespace Valuer

open Jury.Control

/-! ### The words of policies -/

namespace Talk

variable (s : Session)

lemma run_reportLive (score : UInt32) :
    (reportLive score).run Session.answer s = s.reportLive score :=
  rfl

lemma run_comment (audience : Audience) (text : String) :
    (comment audience text).run Session.answer s = ((), s.comment audience.pipe text) :=
  rfl

lemma run_setLog (log : JudgeLog) :
    (setLog log).run Session.answer s = ((), { s with log }) :=
  rfl

end Talk

/-! ### Sessions that differ in what is kept for the policy -/

/-- Whether two sessions differ at most in their comments and in the judge log that is kept. -/
structure Session.Alike (s s' : Session) : Prop where
  stage_eq : s'.stage = s.stage
  tests_eq : s'.tests = s.tests
  pending_eq : s'.pending = s.pending
  sent_eq : s'.sent = s.sent
  control_eq : s'.health.control = s.health.control

namespace Session

lemma alike_setLog (s : Session) (log : JudgeLog) : s.Alike { s with log } :=
  ⟨rfl, rfl, rfl, rfl, rfl⟩

lemma alike_comment (s : Session) (audience : Audience) (text : String) :
    s.Alike (s.comment audience.pipe text) := by
  have hsent := s.sent_comment audience text
  obtain ⟨health, written, hcontrol, heq⟩ := s.comment_eq audience text
  rw [heq] at hsent ⊢
  exact ⟨rfl, rfl, rfl, hsent, hcontrol⟩

lemma Alike.trans {s s' s'' : Session} (h : s.Alike s') (h' : s'.Alike s'') : s.Alike s'' where
  stage_eq := h'.stage_eq.trans h.stage_eq
  tests_eq := h'.tests_eq.trans h.tests_eq
  pending_eq := h'.pending_eq.trans h.pending_eq
  sent_eq := h'.sent_eq.trans h.sent_eq
  control_eq := h'.control_eq.trans h.control_eq

lemma Alike.isOpen_eq {s s' : Session} (h : s.Alike s') : s'.isOpen = s.isOpen := by
  rw [isOpen, isOpen, h.stage_eq]

lemma Alike.isSound {s s' : Session} (h : s.Alike s') (hs : s.health.control.IsSound) :
    s'.health.control.IsSound := by
  rwa [h.control_eq]

lemma reportLive_of_isSound {s : Session} (h : s.health.control.IsSound) (score : UInt32)
    (hopen : s.isOpen = true) : s.reportLive score = (.ok (), s.afterSend (.liveScore score)) := by
  simp [reportLive, hopen, send_of_delivers (h.delivers _)]

lemma sent_afterSend (s : Session) (response : Response) :
    (s.afterSend response).sent = s.sent ++ [response] :=
  sent_of_history (.sent response) rfl

lemma Alike.afterSend {s s' : Session} (h : s.Alike s') (response : Response) :
    (s.afterSend response).Alike (s'.afterSend response) where
  stage_eq := h.stage_eq
  tests_eq := h.tests_eq
  pending_eq := h.pending_eq
  sent_eq := by rw [sent_afterSend, sent_afterSend, h.sent_eq]
  control_eq := by simp only [Session.afterSend, h.control_eq]

/-- An open session without pending tests grants a request for a test of the problem. -/
lemma select_ofNat {s : Session} {k : Nat} (hsound : s.health.control.IsSound)
    (hopen : s.isOpen = true) (hpending : s.pending = []) (hk : k < s.tests.toNat) :
    s.select (UInt32.ofNat (k + 1)) true =
      (.ok (), { s.afterSend (.test (UInt32.ofNat (k + 1)) true) with
        pending := [UInt32.ofNat (k + 1)] }) := by
  have hnat : (UInt32.ofNat (k + 1)).toNat = k + 1 :=
    UInt32.toNat_ofNat_of_lt' (lt_of_le_of_lt hk s.tests.toNat_lt)
  have hfirst : 1 ≤ UInt32.ofNat (k + 1) := by
    rw [UInt32.le_iff_toNat_le, hnat]
    exact Nat.le_add_left 1 k
  have hlast : UInt32.ofNat (k + 1) ≤ s.tests := by
    rw [UInt32.le_iff_toNat_le, hnat]
    exact hk
  have hnew : UInt32.ofNat (k + 1) ∉ s.pending := hpending ▸ List.not_mem_nil
  rw [select_of_delivers (hsound.delivers _) hopen hfirst hlast hnew, hpending]

end Session

/-! ### Results that come in turn -/

/-- These are the results of tests 1, 2, and so on that what is said begins with, all of them. -/
structure InTurn (said : List Heard) (tests : UInt32) (results : List Notification) : Prop where
  begins : Begins said tests results
  order : InOrder results
  within : results.length ≤ tests.toNat
  longest : results.length < tests.toNat → ∀ result, Begins said tests (results ++ [result]) →
    result.test.toNat ≠ results.length + 1

/-- After the results that came in turn so far, these are all that what is said goes on with. -/
structure Continues (said : List Heard) (tests : UInt32) (done more : List Notification) :
    Prop where
  tells : Tells said more
  order : InOrder (done ++ more)
  within : (done ++ more).length ≤ tests.toNat
  longest : (done ++ more).length < tests.toNat → ∀ result, Tells said (more ++ [result]) →
    result.test.toNat ≠ (done ++ more).length + 1

section

variable {said : List Heard} {heard : Heard} {tests : UInt32} {result : Notification}
  {done more results results' : List Notification}

lemma Continues.cons (h : Continues said tests (done ++ [result]) more)
    (hreport : Reports heard result) : Continues (heard :: said) tests done (result :: more) := by
  obtain ⟨htells, horder, hwithin, hlongest⟩ := h
  rw [← List.append_cons] at horder hwithin hlongest
  exact ⟨⟨hreport, htells⟩, horder, hwithin, fun hlt r htold => hlongest hlt r htold.2⟩

lemma continues_of_full (horder : InOrder done) (hfull : done.length = tests.toNat) :
    Continues said tests done [] := by
  refine ⟨tells_nil said, ?_, ?_, fun hlt => ?_⟩
  · rwa [List.append_nil]
  · rw [List.append_nil, hfull]
  · rw [List.append_nil, hfull] at hlt
    exact absurd hlt (lt_irrefl _)

lemma continues_of_unreported (horder : InOrder done) (hwithin : done.length ≤ tests.toNat)
    (hnone : ∀ result, Reports heard result → result.test.toNat ≠ done.length + 1) :
    Continues (heard :: said) tests done [] := by
  refine ⟨tells_nil _, ?_, ?_, fun _ result htold => ?_⟩
  · rwa [List.append_nil]
  · rwa [List.append_nil]
  · rw [List.append_nil]
    exact hnone result htold.1

lemma Continues.inTurn (h : Continues said tests [] results) (hcount : Counts heard tests) :
    InTurn (heard :: said) tests results where
  begins := ⟨heard, said, rfl, hcount, h.tells⟩
  order := h.order
  within := h.within
  longest := by
    rintro hlt result ⟨first, rest, heq, -, htells⟩
    cases heq
    exact h.longest hlt result htells

lemma InTurn.eq_of_isPrefix (h : InTurn said tests results) (h' : InTurn said tests results')
    (hbegin : results <+: results') : results = results' := by
  obtain ⟨more, rfl⟩ := hbegin
  cases more with
  | nil => exact (List.append_nil results).symm
  | cons result more =>
    have hbegins := h'.begins
    have horder := h'.order
    have hwithin := h'.within
    rw [List.append_cons] at hbegins horder
    rw [List.length_append, List.length_cons] at hwithin
    have htest := (InOrder.concat_iff.mp horder.of_append).2
    exact absurd htest (h.longest (by omega) result hbegins.of_append)

lemma InTurn.unique (h : InTurn said tests results) (h' : InTurn said tests results') :
    results = results' := by
  rcases h.begins.comparable h'.begins with hbegin | hbegin
  · exact h.eq_of_isPrefix h' hbegin
  · exact (h'.eq_of_isPrefix h hbegin).symm

/-- The results of all tests, in order, are all that come in turn. -/
lemma inTurn_of_full (hbegins : Begins said tests results) (horder : InOrder results)
    (hfull : results.length = tests.toNat) : InTurn said tests results :=
  ⟨hbegins, horder, hfull.le, fun hlt => absurd hlt hfull.not_lt⟩

end

/-! ### Waiting for one test -/

variable {σ : Type}

/-- Judging waits for the test after the first `count` ones, and for no other. -/
structure Awaits (tests : UInt32) (count : Nat) (run : Run σ) : Prop where
  status : run.status = .judging
  stage : run.session.stage = .running
  tests_eq : run.session.tests = tests
  pending : run.session.pending = [UInt32.ofNat (count + 1)]
  sound : run.session.health.control.IsSound
  within : count < tests.toNat

namespace Awaits

variable {tests : UInt32} {count : Nat} {run : Run σ} {heard : Heard} {result : Notification}

lemma count_lt (h : Awaits tests count run) : count + 1 < UInt32.size :=
  lt_of_le_of_lt h.within tests.toNat_lt

lemma mem_pending_iff (h : Awaits tests count run) {test : UInt32} :
    test ∈ run.session.pending ↔ test.toNat = count + 1 := by
  rw [h.pending, List.mem_singleton, ← UInt32.toNat_inj, UInt32.toNat_ofNat_of_lt' h.count_lt]

lemma inRange (h : Awaits tests count run) {test : UInt32} (htest : test.toNat = count + 1) :
    1 ≤ test ∧ test ≤ run.session.tests := by
  have hwithin := h.within
  rw [h.tests_eq, UInt32.le_iff_toNat_le, UInt32.le_iff_toNat_le, htest]
  exact ⟨Nat.le_add_left 1 _, hwithin⟩

/-- Anything but the result of the test that is waited for ends judging. -/
lemma stops (h : Awaits tests count run) (policy : Scorer σ)
    (hnone : ∀ result, Reports heard result → result.test.toNat ≠ count + 1) :
    ∃ fault, IsReadFault fault ∧
      run.hear Session.answer policy heard = run.stop (.error fault) := by
  obtain ⟨fault, hfault, hhear, -⟩ := hear_of_unreported policy h.status
    fun result hreport hpending => hnone result hreport (h.mem_pending_iff.mp hpending)
  exact ⟨fault, hfault, hhear⟩

lemma hear_eq_call (h : Awaits tests count run) (policy : Scorer σ)
    (hreport : Reports heard result) (htest : result.test.toNat = count + 1) :
    run.hear Session.answer policy heard =
      (run.deliver result).call policy (.testEnded result.entry) :=
  hear_of_reported policy h.status hreport (h.mem_pending_iff.mpr htest) (h.inRange htest)

lemma pending_deliver (h : Awaits tests count run) (htest : result.test.toNat = count + 1) :
    (run.deliver result).session.pending = [] := by
  have htest' : result.test = UInt32.ofNat (count + 1) := by
    rw [← htest, UInt32.ofNat_toNat]
  change run.session.pending.erase result.test = []
  rw [h.pending, htest', List.erase_cons_head]

lemma isOpen_deliver (h : Awaits tests count run) (result : Notification) :
    (run.deliver result).session.isOpen = true :=
  Session.isOpen_iff.mpr (.inr h.stage)

lemma isSound_deliver (h : Awaits tests count run) (result : Notification) :
    (run.deliver result).session.health.control.IsSound :=
  h.sound

lemma tests_deliver (h : Awaits tests count run) (result : Notification) :
    (run.deliver result).session.tests = tests :=
  h.tests_eq

end Awaits

/-- The test after the one that was waited for. -/
lemma succ_eq_ofNat {test : UInt32} {count : Nat} (htest : test.toNat = count + 1) :
    test + 1 = UInt32.ofNat (count + 1 + 1) := by
  rw [← htest, UInt32.ofNat_add, UInt32.ofNat_toNat]
  rfl

lemma Run.sent_deliver (run : Run σ) (result : Notification) :
    (run.deliver result).session.sent = run.session.sent := by
  rw [← List.append_nil run.session.sent]
  exact Session.sent_of_history (.delivered result) rfl

/-! ### Callbacks -/

section

variable (policy : Scorer σ) (callback : Callback) (run : Run σ) (hcallback : callback ≠ .prepare)
  {s : Session} {state : σ} (hsound : s.health.control.IsSound) (hopen : s.isOpen = true)

include hcallback hsound hopen

/-- A callback that comes down to asking for the next test leaves it awaited. -/
lemma call_of_select {count : Nat} (hpending : s.pending = []) (hcount : count < s.tests.toNat)
    (htalk : (run.talk policy callback).run Session.answer run.session =
      (((s.select (UInt32.ofNat (count + 1)) true).1, state),
        (s.select (UInt32.ofNat (count + 1)) true).2)) :
    Awaits s.tests count (run.call policy callback) ∧
      (run.call policy callback).policy = state ∧
      (run.call policy callback).session.log = s.log ∧
      (run.call policy callback).session.sent =
        s.sent ++ [.test (UInt32.ofNat (count + 1)) true] := by
  rw [Session.select_ofNat hsound hopen hpending hcount] at htalk
  obtain ⟨consultations, hcall⟩ := Run.call_of_run policy callback run htalk
  have hstage : s.stage ≠ .finished := by
    rcases Session.isOpen_iff.mp hopen with h | h <;> simp [h]
  have hsent := s.sent_afterSend (.test (UInt32.ofNat (count + 1)) true)
  rw [hcall]
  cases callback with
  | prepare => exact absurd rfl hcallback
  | start =>
    simp only [Run.resume]
    rw [Run.proceed_of_pending _ hstage (List.cons_ne_nil _ _)]
    exact ⟨⟨rfl, rfl, rfl, rfl, hsound, hcount⟩, rfl, rfl, hsent⟩
  | testEnded entry =>
    simp only [Run.resume]
    rw [Run.proceed_of_pending _ hstage (List.cons_ne_nil _ _)]
    exact ⟨⟨rfl, rfl, rfl, rfl, hsound, hcount⟩, rfl, rfl, hsent⟩

/-- A callback that comes down to ending the session ends judging, and does so well if every status
code of the judge log can travel. -/
lemma call_of_finish {score : UInt32} {full : Bool} {log : JudgeLog}
    (htalk : (run.talk policy callback).run Session.answer run.session =
      (((s.finish score full log).1, state), (s.finish score full log).2)) :
    (log.validate = .ok () →
      (run.call policy callback).status = .over (.ok ()) ∧
        (run.call policy callback).session.sent = s.sent ++ [.finish score full log]) ∧
    (log.validate ≠ .ok () → ∃ fault, IsReadFault fault ∧
      (run.call policy callback).status = .over (.error fault) ∧
        (run.call policy callback).session.sent = s.sent) := by
  constructor
  · intro hvalid
    rw [Session.finish_of_delivers (hsound.delivers _) hopen hvalid] at htalk
    obtain ⟨consultations, hcall⟩ := Run.call_of_run policy callback run htalk
    rw [hcall]
    have hsent := s.sent_afterSend (.finish score full log)
    cases callback with
    | prepare => exact absurd rfl hcallback
    | start =>
      simp only [Run.resume]
      rw [Run.proceed_of_finished _ rfl]
      exact ⟨rfl, hsent⟩
    | testEnded entry =>
      simp only [Run.resume]
      rw [Run.proceed_of_finished _ rfl]
      exact ⟨rfl, hsent⟩
  · intro hinvalid
    cases hvalidate : log.validate with
    | ok => exact absurd hvalidate hinvalid
    | error fault =>
      rw [Session.finish_of_invalid _ _ hopen hvalidate] at htalk
      obtain ⟨consultations, hcall⟩ := Run.call_of_run policy callback run htalk
      rw [hcall]
      exact ⟨fault, isReadFault_of_validate hvalidate, rfl, rfl⟩

end

end Valuer

end Jury
