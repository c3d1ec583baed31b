import Jury.Proofs.Valuer.InTurn
import Jury.Proofs.Valuer.Shares

/-!
# The policy of partial credit, against any harness

The policy runs the tests in turn and reports after each result the share of accepted tests. What
it writes is a part of one `course`, which the results determine that come in turn; the final
message is reached with the results of all tests. The invariant is `Waiting`: the number that the
policy keeps is that of the accepted results so far. A result that is repeated or out of turn ends
judging before the policy is told of it, so it is never counted.
-/

namespace Jury.Valuer.PartialCredit

open Jury.Control

/-! ### What the policy does -/

lemma run_start (s : Session) (accepted : UInt32) :
    (policy.start s.view accepted).run Session.answer s =
      (((({ s with log := { s.log with name := "main" } } : Session).select 1 true).1, accepted),
        (({ s with log := { s.log with name := "main" } } : Session).select 1 true).2) :=
  rfl

/-- What the policy does after it reported the share: it goes on or ends judging. -/
def advance (entry : TestEntry) (tests accepted : UInt32) (log : JudgeLog) :
    Talk (Except Fault Unit × UInt32) :=
  if entry.test < tests then do return (← Talk.select (entry.test + 1) true, accepted)
  else do
    Talk.comment .contestant
      ("passed " ++ toString accepted ++ " of " ++ toString tests ++ " tests")
    Talk.setLog {}
    return (← Talk.finish (score accepted tests) (accepted == tests) log, accepted)

section

variable {s : Session} (hsound : s.health.control.IsSound) (hopen : s.isOpen = true)
  (entry : TestEntry) (accepted : UInt32)

include hsound hopen

lemma run_reportLive_bind {s₁ : Session} (hsame : s.Alike s₁) (score : UInt32)
    {α : Type} (next : Except Fault Unit → Talk α) :
    (Talk.reportLive score >>= next).run Session.answer s₁ =
      (next (.ok ())).run Session.answer (s₁.afterSend (.liveScore score)) := by
  have hopen₁ : s₁.isOpen = true := hsame.isOpen_eq.trans hopen
  rw [Dialogue.run_bind, Talk.run_reportLive,
    Session.reportLive_of_isSound (hsame.isSound hsound) score hopen₁]

/-- The policy takes down the entry and reports the share first. -/
lemma run_testEnded :
    ∃ s₁, s.Alike s₁ ∧ s₁.log = s.log.addTest (logged entry) ∧
      (policy.testEnded entry s.view accepted).run Session.answer s =
        (advance entry s.tests (counted entry accepted) (s.log.addTest (logged entry))).run
          Session.answer (s₁.afterSend (.liveScore (score (counted entry accepted) s.tests))) := by
  cases hkind : entry.kind.isPassed with
  | true =>
    have hsame := s.alike_setLog (s.log.addTest (logged entry))
    refine ⟨_, hsame, rfl, ?_⟩
    simp only [policy, testEnded, counted, hkind, Bool.not_true, Bool.false_eq_true, if_false,
      if_true]
    rw [Dialogue.run_bind, Talk.run_setLog]
    exact run_reportLive_bind hsound hopen hsame _ _
  | false =>
    have hsame := (s.alike_comment .judges
      ("test " ++ toString entry.test ++ ": " ++ entry.statusCode)).trans
        (Session.alike_setLog _ (s.log.addTest (logged entry)))
    refine ⟨_, hsame, rfl, ?_⟩
    simp only [policy, testEnded, counted, hkind, Bool.not_false, Bool.false_eq_true, if_false,
      if_true]
    rw [Dialogue.run_bind, Talk.run_comment, Dialogue.run_bind, Talk.run_setLog]
    exact run_reportLive_bind hsound hopen hsame _ _

/-- After a test that is not the last, the policy asks for the next one. -/
lemma run_testEnded_next (hnext : entry.test < s.tests) :
    ∃ s₁, (s.afterSend (.liveScore (score (counted entry accepted) s.tests))).Alike s₁ ∧
      s₁.log = s.log.addTest (logged entry) ∧
      (policy.testEnded entry s.view accepted).run Session.answer s =
        (((s₁.select (entry.test + 1) true).1, counted entry accepted),
          (s₁.select (entry.test + 1) true).2) := by
  obtain ⟨s₁, hsame, hlog, hrun⟩ := run_testEnded hsound hopen entry accepted
  refine ⟨_, hsame.afterSend _, hlog, ?_⟩
  rw [hrun, advance, if_pos hnext]
  rfl

/-- After the last test the policy ends judging. -/
lemma run_testEnded_last (hlast : ¬entry.test < s.tests) :
    ∃ s₁, (s.afterSend (.liveScore (score (counted entry accepted) s.tests))).Alike s₁ ∧
      (policy.testEnded entry s.view accepted).run Session.answer s =
        (((s₁.finish (score (counted entry accepted) s.tests) (counted entry accepted == s.tests)
            (s.log.addTest (logged entry))).1, counted entry accepted),
          (s₁.finish (score (counted entry accepted) s.tests) (counted entry accepted == s.tests)
            (s.log.addTest (logged entry))).2) := by
  obtain ⟨s₁, hsame, -, hrun⟩ := run_testEnded hsound hopen entry accepted
  refine ⟨_, ((hsame.afterSend _).trans (Session.alike_comment _ .contestant
    ("passed " ++ toString (counted entry accepted) ++ " of " ++ toString s.tests ++
      " tests"))).trans (Session.alike_setLog _ {}), ?_⟩
  rw [hrun, advance, if_neg hlast]
  rfl

end

/-! ### Waiting for a test -/

/-- Judging waits for the test after these results, and the policy has counted the accepted ones. -/
structure Waiting (tests : UInt32) (results : List Notification) (run : Run UInt32) : Prop
    extends Awaits tests results.length run where
  log : run.session.log = logOf results
  accepted : run.policy.toNat = passed results
  sent : run.session.sent =
    scored tests results ++ [.test (UInt32.ofNat (results.length + 1)) true]
  order : InOrder results

/-- How judging ends when these are the results that come in turn. -/
inductive Judged (tests : UInt32) (results : List Notification) (run : Run UInt32) : Prop
  | incomplete {fault : Fault} (hcount : results.length < tests.toNat)
      (hfault : IsReadFault fault) (hstatus : run.status = .over (.error fault))
      (hsent : run.session.sent =
        scored tests results ++ [.test (UInt32.ofNat (results.length + 1)) true])
  | refused {fault : Fault} (hcount : results.length = tests.toNat) (hcodes : ¬CodesPass results)
      (hfault : IsReadFault fault) (hstatus : run.status = .over (.error fault))
      (hsent : run.session.sent = scored tests results)
  | complete (hcount : results.length = tests.toNat) (hcodes : CodesPass results)
      (hstatus : run.status = .over (.ok ())) (hsent : run.session.sent = course tests results)

namespace Waiting

variable {tests : UInt32} {results : List Notification} {run : Run UInt32} {heard : Heard}
  {result : Notification}

lemma accepted_lt (h : Waiting tests results run) : run.policy < tests := by
  rw [UInt32.lt_iff_toNat_lt, h.accepted]
  exact lt_of_le_of_lt (passed_le_length results) h.within

lemma toNat_counted (h : Waiting tests results run) (result : Notification) :
    (counted result.entry run.policy).toNat = passed (results ++ [result]) := by
  rw [PartialCredit.toNat_counted h.accepted_lt, h.accepted, passed_concat]
  rfl

lemma passed_le (h : Waiting tests results run) (result : Notification) :
    passed (results ++ [result]) ≤ tests.toNat := by
  rw [← h.toNat_counted]
  exact toNat_counted_le h.accepted_lt

/-- The score that the policy reports is the share of what was told. -/
lemma score_counted (h : Waiting tests results run) (result : Notification) :
    score (counted result.entry run.policy) tests =
      UInt32.ofNat (share tests (results ++ [result])) := by
  rw [← UInt32.toNat_inj, toNat_share (h.passed_le result),
    toNat_score (toNat_counted_le h.accepted_lt), h.toNat_counted, share]

lemma full_eq (h : Waiting tests results run) (result : Notification) :
    (counted result.entry run.policy == tests) =
      decide (passed (results ++ [result]) = tests.toNat) := by
  rw [beq_eq_decide, decide_eq_decide, ← UInt32.toNat_inj, h.toNat_counted]

lemma sent_afterSend (h : Waiting tests results run) (result : Notification) :
    ((run.deliver result).session.afterSend
      (.liveScore (UInt32.ofNat (share tests (results ++ [result]))))).sent =
        scored tests (results ++ [result]) := by
  rw [Session.sent_afterSend, Run.sent_deliver, h.sent, scored_concat, List.append_assoc]
  rfl

/-- After the result of a test that is not the last, the next one is waited for. -/
lemma next (h : Waiting tests results run) (hreport : Reports heard result)
    (htest : result.test.toNat = results.length + 1) (hlt : results.length + 1 < tests.toNat) :
    Waiting tests (results ++ [result]) (run.hear Session.answer policy heard) := by
  have hlength : (results ++ [result]).length = results.length + 1 := List.length_append
  have htests := h.tests_deliver result
  have hnext : result.entry.test < (run.deliver result).session.tests := by
    rw [htests, UInt32.lt_iff_toNat_lt]
    exact htest.trans_lt hlt
  have hsucc : result.entry.test + 1 = UInt32.ofNat ((results ++ [result]).length + 1) := by
    rw [hlength]
    exact succ_eq_ofNat htest
  have hsound := h.isSound_deliver result
  have hopen := h.isOpen_deliver result
  obtain ⟨s₁, hsame, hlog, htalk⟩ := run_testEnded_next hsound hopen result.entry run.policy hnext
  rw [htests, h.score_counted] at hsame
  rw [hsucc] at htalk
  have htests₁ : s₁.tests = tests := hsame.tests_eq.trans htests
  have hwithin : (results ++ [result]).length < s₁.tests.toNat := by
    rw [htests₁, hlength]
    exact hlt
  obtain ⟨hawaits, hpolicy, hlog₁, hsent⟩ := call_of_select policy (.testEnded result.entry)
    (run.deliver result) (by simp) (hsame.isSound hsound) (hsame.isOpen_eq.trans hopen)
    (hsame.pending_eq.trans (h.pending_deliver htest)) hwithin htalk
  rw [h.hear_eq_call policy hreport htest]
  refine ⟨htests₁ ▸ hawaits, ?_, ?_, ?_, InOrder.concat_iff.mpr ⟨h.order, htest⟩⟩
  · rw [hlog₁, hlog, ← addTest_logOf, ← h.log]
    rfl
  · rw [hpolicy, h.toNat_counted]
  · rw [hsent, hsame.sent_eq, h.sent_afterSend]

/-- The result of the last test ends judging, well if every status code can travel. -/
lemma ends (h : Waiting tests results run) (hreport : Reports heard result)
    (htest : result.test.toNat = results.length + 1) (hlast : results.length + 1 = tests.toNat) :
    Judged tests (results ++ [result]) (run.hear Session.answer policy heard) := by
  have hlength : (results ++ [result]).length = tests.toNat := by
    rw [List.length_append, List.length_singleton, hlast]
  have htests := h.tests_deliver result
  have hnext : ¬result.entry.test < (run.deliver result).session.tests := by
    rw [htests, UInt32.lt_iff_toNat_lt]
    exact (htest.trans hlast).not_lt
  have hsound := h.isSound_deliver result
  have hopen := h.isOpen_deliver result
  obtain ⟨s₁, hsame, htalk⟩ := run_testEnded_last hsound hopen result.entry run.policy hnext
  have hlog : (run.deliver result).session.log.addTest (logged result.entry) =
      logOf (results ++ [result]) := by
    rw [← addTest_logOf, ← h.log]
    rfl
  rw [htests, h.score_counted] at hsame
  rw [htests, h.score_counted, h.full_eq, hlog] at htalk
  have hsent₁ : s₁.sent = scored tests (results ++ [result]) :=
    hsame.sent_eq.trans (h.sent_afterSend result)
  obtain ⟨hvalid, hinvalid⟩ := call_of_finish policy (.testEnded result.entry)
    (run.deliver result) (by simp) (hsame.isSound hsound) (hsame.isOpen_eq.trans hopen) htalk
  rw [h.hear_eq_call policy hreport htest]
  rw [ne_eq, validate_logOf_iff] at hinvalid
  rw [validate_logOf_iff] at hvalid
  by_cases hcodes : CodesPass (results ++ [result])
  · obtain ⟨hstatus, hsent⟩ := hvalid hcodes
    rw [hsent₁] at hsent
    exact .complete hlength hcodes hstatus hsent
  · obtain ⟨fault, hfault, hstatus, hsent⟩ := hinvalid hcodes
    exact .refused hlength hcodes hfault hstatus (hsent.trans hsent₁)

/-- Anything but the result of the test that is waited for ends judging. -/
lemma judged_of_unreported (h : Waiting tests results run)
    (hnone : ∀ result, Reports heard result → result.test.toNat ≠ results.length + 1) :
    Judged tests results (run.hear Session.answer policy heard) := by
  obtain ⟨fault, hfault, hhear⟩ := h.stops policy hnone
  rw [hhear]
  exact .incomplete h.within hfault rfl h.sent

end Waiting

/-! ### One step, and all that is said -/

/-- Judging is over, and if it failed, then by what was read. -/
lemma Judged.over {tests : UInt32} {results : List Notification} {run : Run UInt32}
    (h : Judged tests results run) :
    ∃ ending, run.status = .over ending ∧ ∀ fault, ending = .error fault → IsReadFault fault := by
  cases h with
  | incomplete _ hfault hstatus => exact ⟨_, hstatus, fun _ heq => Except.error.inj heq ▸ hfault⟩
  | refused _ _ hfault hstatus => exact ⟨_, hstatus, fun _ heq => Except.error.inj heq ▸ hfault⟩
  | complete _ _ hstatus => exact ⟨_, hstatus, nofun⟩

/-- What comes of hearing one thing more, when the results so far came in turn. -/
inductive Heeded (tests : UInt32) (results : List Notification) (heard : Heard)
    (run : Run UInt32) : Prop
  | next {result : Notification} (hreport : Reports heard result)
      (hwaiting : Waiting tests (results ++ [result]) run)
  | last {result : Notification} (hreport : Reports heard result)
      (horder : InOrder (results ++ [result]))
      (hfull : (results ++ [result]).length = tests.toNat)
      (hjudged : Judged tests (results ++ [result]) run)
  | unreported (hnone : ∀ result, Reports heard result → result.test.toNat ≠ results.length + 1)
      (hjudged : Judged tests results run)

namespace Waiting

variable {tests : UInt32} {results : List Notification} {run : Run UInt32}

lemma heeded (h : Waiting tests results run) (heard : Heard) :
    Heeded tests results heard (run.hear Session.answer policy heard) := by
  by_cases hturn : ∃ result, Reports heard result ∧ result.test.toNat = results.length + 1
  · obtain ⟨result, hreport, htest⟩ := hturn
    rcases Nat.lt_or_eq_of_le h.within with hlt | hlast
    · exact .next hreport (h.next hreport htest hlt)
    · have hfull : (results ++ [result]).length = tests.toNat := by
        rw [List.length_append, List.length_singleton, ← hlast]
      exact .last hreport (InOrder.concat_iff.mpr ⟨h.order, htest⟩) hfull
        (h.ends hreport htest hlast)
  · have hnone : ∀ result, Reports heard result → result.test.toNat ≠ results.length + 1 :=
      fun result hreport htest => hturn ⟨result, hreport, htest⟩
    exact .unreported hnone (h.judged_of_unreported hnone)

/-- When all is said, judging has ended after the results that came in turn. -/
lemma judged (h : Waiting tests results run) (lines : List Heard) :
    ∃ more, Continues (lines ++ [.ended]) tests results more ∧
      Judged tests (results ++ more) (run.listen policy (lines ++ [.ended])) := by
  induction lines generalizing results run with
  | nil =>
    have hnone : ∀ result, Reports .ended result → result.test.toNat ≠ results.length + 1 :=
      fun result hreport => absurd hreport (not_reports_ended result)
    refine ⟨[], continues_of_unreported h.order h.within.le hnone, ?_⟩
    rw [List.append_nil]
    exact h.judged_of_unreported hnone
  | cons heard lines ih =>
    rw [List.cons_append, Run.listen_cons]
    cases h.heeded heard with
    | @next result hreport hwaiting =>
      obtain ⟨more, hcontinues, hjudged⟩ := ih hwaiting
      refine ⟨result :: more, hcontinues.cons hreport, ?_⟩
      rwa [List.append_cons]
    | @last result hreport horder hfull hjudged =>
      obtain ⟨ending, hover, -⟩ := hjudged.over
      rw [Run.listen_of_over policy hover]
      exact ⟨[result], (continues_of_full horder hfull).cons hreport, hjudged⟩
    | unreported hnone hjudged =>
      obtain ⟨ending, hover, -⟩ := hjudged.over
      rw [Run.listen_of_over policy hover]
      refine ⟨[], continues_of_unreported h.order h.within.le hnone, ?_⟩
      rwa [List.append_nil]

/-- As long as judging goes on, it waits for the test after those that came in turn. -/
lemma of_judging (h : Waiting tests results run) (said : List Heard)
    (hstatus : (run.listen policy said).status = .judging) :
    ∃ more, Waiting tests (results ++ more) (run.listen policy said) := by
  induction said generalizing results run with
  | nil => exact ⟨[], (List.append_nil results).symm ▸ h⟩
  | cons heard said ih =>
    rw [Run.listen_cons] at hstatus ⊢
    cases h.heeded heard with
    | @next result hreport hwaiting =>
      obtain ⟨more, hmore⟩ := ih hwaiting hstatus
      exact ⟨result :: more, List.append_cons results result more ▸ hmore⟩
    | last _ _ _ hjudged =>
      obtain ⟨ending, hover, -⟩ := hjudged.over
      rw [Run.listen_of_over policy hover, hover] at hstatus
      cases hstatus
    | unreported _ hjudged =>
      obtain ⟨ending, hover, -⟩ := hjudged.over
      rw [Run.listen_of_over policy hover, hover] at hstatus
      cases hstatus

end Waiting

section

variable (health : PerPipe Health)

lemma status_begin :
    (Run.begin Session.answer policy 0 { health }).status = .counting :=
  rfl

lemma waiting_call_start {run : Run UInt32} {tests : UInt32}
    (hsound : run.session.health.control.IsSound) (hopen : run.session.isOpen = true)
    (hpending : run.session.pending = []) (hsent : run.session.sent = [])
    (hlog : run.session.log = {}) (htests : run.session.tests = tests)
    (hwithin : 0 < tests.toNat) (hpolicy : run.policy = 0) :
    Waiting tests [] (run.call policy .start) := by
  have hsame := run.session.alike_setLog { run.session.log with name := "main" }
  have htests₁ := hsame.tests_eq.trans htests
  obtain ⟨hawaits, hstate, hlog₁, hsent₁⟩ := call_of_select policy .start run (by simp)
    (hsame.isSound hsound) (hsame.isOpen_eq.trans hopen) (hsame.pending_eq.trans hpending)
    (htests₁ ▸ hwithin) (run_start run.session run.policy)
  refine ⟨htests₁ ▸ hawaits, ?_, ?_, ?_, rfl⟩
  · rw [hlog₁, hlog]
    rfl
  · rw [hstate, hpolicy]
    rfl
  · rw [hsent₁, hsame.sent_eq, hsent]
    rfl

/-- The first test is waited for once the number of tests is heard. -/
lemma waiting_hear (hsound : health.control.IsSound) {first : Heard} {tests : UInt32}
    (hcount : Counts first tests) :
    Waiting tests [] ((Run.begin Session.answer policy 0 { health }).hear Session.answer policy
      first) := by
  rw [hear_of_counts policy (status_begin health) hcount]
  exact waiting_call_start hsound rfl rfl rfl rfl rfl hcount.pos rfl

/-- After a number of tests, judging ends by the results that come in turn. -/
lemma judged_judgeUntil (hsound : health.control.IsSound) {first : Heard} {tests : UInt32}
    (hcount : Counts first tests) (lines : List Heard) :
    ∃ results, InTurn (first :: (lines ++ [.ended])) tests results ∧
      Judged tests results (judgeUntil policy 0 { health } (first :: (lines ++ [.ended]))) := by
  obtain ⟨results, hcontinues, hjudged⟩ := (waiting_hear health hsound hcount).judged lines
  exact ⟨results, hcontinues.inTurn hcount, hjudged⟩

/-- Without a number of tests, judging ends before anything is written. -/
lemma judgeUntil_of_uncounted {first : Heard} (hcount : ∀ tests, ¬Counts first tests)
    (said : List Heard) :
    ∃ fault, IsReadFault fault ∧
      (judgeUntil policy 0 { health } (first :: said)).status = .over (.error fault) ∧
      (judgeUntil policy 0 { health } (first :: said)).session.sent = [] := by
  obtain ⟨fault, hfault, hhear⟩ := hear_of_uncounted policy (status_begin health) hcount
  rw [judgeUntil, Run.listen_cons, hhear, Run.listen_of_over policy rfl]
  exact ⟨fault, hfault, rfl, rfl⟩

/-- While results are awaited, the policy waits for the next test. -/
lemma waiting_of_judging (hsound : health.control.IsSound) {said : List Heard}
    (hstatus : (judgeUntil policy 0 { health } said).status = .judging) :
    ∃ tests results, Waiting tests results (judgeUntil policy 0 { health } said) := by
  cases said with
  | nil => cases hstatus
  | cons first said =>
    by_cases hcount : ∃ tests, Counts first tests
    · obtain ⟨tests, hcount⟩ := hcount
      obtain ⟨results, hwaiting⟩ := (waiting_hear health hsound hcount).of_judging said hstatus
      exact ⟨tests, _, hwaiting⟩
    · obtain ⟨fault, -, hover, -⟩ := judgeUntil_of_uncounted health
        (not_exists.mp hcount) said
      rw [hover] at hstatus
      cases hstatus

/-- No operation of a callback wraps around, cuts off bits or divides by zero. -/
lemma isExact_of_turn (hsound : health.control.IsSound) {said : List Heard} {heard : Heard}
    {entry : TestEntry} {session : Session}
    (hturn : (judgeUntil policy 0 { health } said).turn heard =
      .call (.testEnded entry) session) :
    IsExact entry session.tests (judgeUntil policy 0 { health } said).policy := by
  have hrule := turnRule_turn (judgeUntil policy 0 { health } said) heard
  rw [hturn] at hrule
  cases hrule with
  | @testEnded result hstatus hreport hpending =>
    obtain ⟨tests, results, hwaiting⟩ := waiting_of_judging health hsound hstatus
    rw [hwaiting.tests_deliver result]
    exact isExact_of_lt _ hwaiting.accepted_lt

end

/-! ### What is written in the end -/

namespace Judged

variable {tests : UInt32} {results more : List Notification} {run : Run UInt32}

lemma filterMap_isPrefix (h : Judged tests results run) :
    run.session.sent.filterMap score? <+: (course tests results).filterMap score? := by
  cases h with
  | incomplete _ _ _ hsent =>
    rw [hsent, course, List.filterMap_append, List.filterMap_append]
    exact (List.prefix_append_right_inj _).mpr List.nil_prefix
  | refused _ _ _ _ hsent =>
    rw [hsent, course, List.filterMap_append]
    exact List.prefix_append _ _
  | complete _ _ _ hsent => exact hsent ▸ List.prefix_rfl

/-- The final message of a session, if there is one, is the verdict on the results of all tests. -/
lemma final_iff (h : Judged tests results run) {response : Response} :
    response ∈ run.session.sent ∧ isFinal response = true ↔
      results.length = tests.toNat ∧ CodesPass results ∧ response = verdict tests results := by
  cases h with
  | incomplete hcount _ _ hsent =>
    refine iff_of_false ?_ fun ⟨hfull, _⟩ => absurd hcount hfull.not_lt
    rintro ⟨hmem, hfinal⟩
    rw [hsent] at hmem
    rcases List.mem_append.mp hmem with hmem | hmem
    · exact not_mem_scored hfinal hmem
    · rw [List.mem_singleton.mp hmem] at hfinal
      cases hfinal
  | refused hcount hcodes _ _ hsent =>
    refine iff_of_false ?_ fun ⟨_, hpass, _⟩ => absurd hpass hcodes
    rintro ⟨hmem, hfinal⟩
    rw [hsent] at hmem
    exact not_mem_scored hfinal hmem
  | complete hcount hcodes _ hsent =>
    rw [hsent, course, List.mem_append, List.mem_singleton]
    constructor
    · rintro ⟨hmem | rfl, hfinal⟩
      · exact absurd hmem (not_mem_scored hfinal)
      · exact ⟨hcount, hcodes, rfl⟩
    · rintro ⟨-, -, rfl⟩
      exact ⟨.inr rfl, rfl⟩

lemma fair (h : Judged tests results run) (hwithin : results.length ≤ tests.toNat)
    (htests : 0 < tests.toNat) : Fair run.session.sent where
  sorted := (sorted_course hwithin).sublist h.filterMap_isPrefix.sublist
  bounded score hmem := le_of_mem_course hwithin (h.filterMap_isPrefix.subset hmem)
  full_iff := by
    intro score full log hmem
    obtain ⟨-, -, hverdict⟩ := h.final_iff.mp ⟨hmem, rfl⟩
    have hpassed : passed results ≤ tests.toNat := (passed_le_length results).trans hwithin
    cases hverdict
    rw [decide_eq_true_iff, ← share_eq_iff htests hpassed, ← UInt32.toNat_inj, toNat_share hpassed]
    rfl

/-- What is written is a part of the course of any session that goes on so. -/
lemma sent_isPrefix (h : Judged tests results run) (hmore : results <+: more)
    (hfull : more.length = tests.toNat) : run.session.sent <+: course tests more := by
  cases h with
  | incomplete hcount _ _ hsent =>
    obtain ⟨rest, rfl⟩ := hmore
    cases rest with
    | nil =>
      rw [List.append_nil] at hfull
      exact absurd hcount hfull.not_lt
    | cons result rest =>
      -- the request for the next test comes before its score
      have hscored := scored_concat tests results result
      rw [hsent]
      have hnext : scored tests results ++ [.test (UInt32.ofNat (results.length + 1)) true] <+:
          scored tests (results ++ [result]) := by
        rw [hscored, List.prefix_append_right_inj]
        exact List.prefix_append [_] [_]
      have hrest : results ++ [result] <+: results ++ result :: rest :=
        ⟨rest, List.append_cons results result rest ▸ rfl⟩
      exact (hnext.trans (scored_isPrefix hrest)).trans (List.prefix_append _ _)
  | refused _ _ _ _ hsent =>
    rw [hsent]
    exact (scored_isPrefix hmore).trans (List.prefix_append _ _)
  | complete hcount _ _ hsent =>
    obtain rfl := hmore.eq_of_length (hcount.trans hfull.symm)
    exact hsent ▸ List.prefix_rfl

end Judged

/-! ### Judging with the policy -/

section

variable (health : PerPipe Health)

/-- Judging ends by the results that come in turn, or else without a number of tests. -/
lemma judged_or_uncounted (hsound : health.control.IsSound) (lines : List Heard) :
    (∃ tests results, InTurn (lines ++ [.ended]) tests results ∧
      Judged tests results (judgeUntil policy 0 { health } (lines ++ [.ended]))) ∨
    (∀ tests results, ¬Begins (lines ++ [.ended]) tests results) ∧
      ∃ fault, IsReadFault fault ∧
        (judgeUntil policy 0 { health } (lines ++ [.ended])).status = .over (.error fault) ∧
        (judgeUntil policy 0 { health } (lines ++ [.ended])).session.sent = [] := by
  cases lines with
  | nil =>
    right
    exact ⟨not_begins_of_uncounted not_counts_ended [],
      judgeUntil_of_uncounted health not_counts_ended []⟩
  | cons first lines =>
    by_cases hcount : ∃ tests, Counts first tests
    · left
      obtain ⟨tests, hcount⟩ := hcount
      exact ⟨tests, judged_judgeUntil health hsound hcount lines⟩
    · right
      rw [not_exists] at hcount
      exact ⟨not_begins_of_uncounted hcount _, judgeUntil_of_uncounted health hcount _⟩

/-- **The policy of partial credit is exact against any harness.** With the number of tests heard,
what is written is a part of the course that the results take which come in turn: each request is
followed by the share of accepted tests. The final message is there just if the results of all
tests come in order with status codes that can travel. Scores never fall or exceed 100, and 100 is
the final score just for full marks. Judging ends, never by a fault of the policy, and whenever the
policy is told of a test, all operations on machine words are exact. -/
theorem written_control_scored (hsound : health.control.IsSound) (input : List UInt8) :
    let run := (judge Session.answer policy 0 { health } input).1
    run.session.written .control = String.join (run.session.sent.map Response.render) ∧
      (∀ tests, Begins (heards input) tests [] →
        ∃ results, InTurn (heards input) tests results ∧ Judged tests results run ∧
          ∀ more, results <+: more → more.length = tests.toNat →
            run.session.sent <+: course tests more) ∧
      ((∀ tests, ¬Begins (heards input) tests []) → run.session.sent = [] ∧
        ∃ fault, IsReadFault fault ∧ run.status = .over (.error fault)) ∧
      (∀ response, response ∈ run.session.sent ∧ isFinal response = true ↔
        ∃ tests results, Begins (heards input) tests results ∧ InOrder results ∧
          results.length = tests.toNat ∧ CodesPass results ∧ response = verdict tests results) ∧
      Fair run.session.sent ∧
      (∃ ending, run.status = .over ending ∧ ∀ fault, ending ≠ .error (.contract fault)) ∧
      ∀ said heard entry session, said ++ [heard] <+: heards input →
        (judgeUntil policy 0 { health } said).turn heard = .call (.testEnded entry) session →
          IsExact entry session.tests (judgeUntil policy 0 { health } said).policy := by
  intro run
  have hrun : run = judgeUntil policy 0 { health } (heards input) :=
    judge_eq_judgeUntil policy 0 { health } input
  have hwritten : run.session.written .control =
      String.join (run.session.sent.map Response.render) :=
    hrun ▸ written_judgeUntil policy 0 hsound (heards input)
  have hexact : ∀ said heard entry session, said ++ [heard] <+: heards input →
      (judgeUntil policy 0 { health } said).turn heard = .call (.testEnded entry) session →
        IsExact entry session.tests (judgeUntil policy 0 { health } said).policy :=
    fun _ _ _ _ _ hturn => isExact_of_turn health hsound hturn
  obtain ⟨lines, hlines⟩ : ∃ lines, heards input = lines ++ [.ended] := ⟨_, rfl⟩
  have hcases := judged_or_uncounted health hsound lines
  rw [← hlines, ← hrun] at hcases
  rcases hcases with ⟨tests, results, hturn, hjudged⟩ | ⟨hnone, fault, hfault, hstatus, hsent⟩
  · refine ⟨hwritten, ?_, ?_, ?_, hjudged.fair hturn.within hturn.begins.pos, ?_, hexact⟩
    · intro tests' hbegins
      rw [← hturn.begins.tests_unique hbegins]
      exact ⟨results, hturn, hjudged, fun more hmore hfull => hjudged.sent_isPrefix hmore hfull⟩
    · exact fun hnone => absurd hturn.begins.nil (hnone tests)
    · intro response
      rw [hjudged.final_iff]
      constructor
      · rintro ⟨hfull, hcodes, hresponse⟩
        exact ⟨tests, results, hturn.begins, hturn.order, hfull, hcodes, hresponse⟩
      · rintro ⟨tests', results', hbegins, horder, hfull, hcodes, hresponse⟩
        cases hturn.begins.tests_unique hbegins
        cases hturn.unique (inTurn_of_full hbegins horder hfull)
        exact ⟨hfull, hcodes, hresponse⟩
    · obtain ⟨ending, hover, hread⟩ := hjudged.over
      exact ⟨ending, hover, fun fault hcontract => hread _ hcontract⟩
  · refine ⟨hwritten, ?_, ?_, ?_, ?_, ?_, hexact⟩
    · exact fun tests hbegins => absurd hbegins (hnone tests [])
    · exact fun _ => ⟨hsent, fault, hfault, hstatus⟩
    · intro response
      refine iff_of_false ?_ ?_
      · rw [hsent]
        exact fun ⟨hmem, _⟩ => absurd hmem List.not_mem_nil
      · rintro ⟨tests, results, hbegins, -⟩
        exact hnone tests results hbegins
    · rw [hsent]
      exact fair_nil
    · refine ⟨_, hstatus, fun complaint hcontract => ?_⟩
      cases hcontract
      exact hfault

end

/-- With one of three tests rejected, the shares are 33, 33 and 66. -/
theorem written_control_scored_rejected :
    let input := Utf8.encode "3\n1 Accepted OK\n2 Rejected WA\n3 Accepted OK\n"
    (judge Session.answer policy 0 {} input).1.session.written .control =
      "RUN 1 1\nLIVE-SCORE 33\nRUN 2 1\nLIVE-SCORE 33\nRUN 3 1\nLIVE-SCORE 66\n" ++
        "DONE 66 0\n3\n1 Accepted OK 1\n2 Rejected WA 1\n3 Accepted OK 1\n0\n" := by
  intro input
  have hheards : heards input = [.line (some "3"), .line (some "1 Accepted OK"),
      .line (some "2 Rejected WA"), .line (some "3 Accepted OK"), .ended] := by
    decide +kernel
  have hbegins : Begins (heards input) 3
      [⟨1, .accepted, "OK"⟩, ⟨2, .rejected, "WA"⟩, ⟨3, .accepted, "OK"⟩] := by
    refine ⟨.line (some "3"), _, hheards, ⟨_, rfl, by decide +kernel, by decide⟩, ?_⟩
    exact ⟨⟨_, rfl, by decide +kernel⟩, ⟨_, rfl, by decide +kernel⟩, ⟨_, rfl, by decide +kernel⟩,
      tells_nil _⟩
  obtain ⟨hwritten, hcourse, -⟩ :=
    written_control_scored ⟨.sound, .sound, .sound⟩ (fun _ _ => rfl) input
  obtain ⟨results, hturn, hjudged, -⟩ := hcourse 3 hbegins.nil
  cases hturn.unique (inTurn_of_full hbegins rfl rfl)
  have hcodes : CodesPass [⟨1, .accepted, "OK"⟩, ⟨2, .rejected, "WA"⟩, ⟨3, .accepted, "OK"⟩] := by
    simp only [CodesPass, checkStatusCode_eq_ok_iff]
    decide
  cases hjudged with
  | incomplete hcount => exact absurd hcount (by decide)
  | refused _ hrefused => exact absurd hcodes hrefused
  | complete _ _ _ hsent =>
    rw [hsent] at hwritten
    exact hwritten.trans (by decide +kernel)

end Jury.Valuer.PartialCredit
