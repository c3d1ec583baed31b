import Jury.Proofs.Valuer.InTurn

/-!
# The policy of ICPC contests, against any harness

The policy asks for the tests one by one and ends with the first failure or the last test. What it
writes is determined by what is heard: whether the lines begin with the number of tests and with
accepted results of all of them in order, or with results in order of which exactly the last is not
accepted. The invariant is `Waiting`: after each accepted result one more test is pending.
-/

namespace Jury.Valuer.Icpc

open Jury.Control

/-! ### What decides judging -/

/-- These are the results of all tests, in order and accepted. -/
structure AllPassed (tests : UInt32) (results : List Notification) : Prop where
  order : InOrder results
  complete : results.length = tests.toNat
  accepted : ∀ result ∈ results, result.kind = .accepted
  codes : CodesPass results

/-- These are the results of the first tests, in order and accepted, and that of the next, which is
not. -/
structure FirstFailed (tests : UInt32) (passed : List Notification) (failed : Notification) :
    Prop where
  order : InOrder (passed ++ [failed])
  within : passed.length < tests.toNat
  accepted : ∀ result ∈ passed, result.kind = .accepted
  rejected : failed.kind ≠ .accepted
  codes : CodesPass (passed ++ [failed])

/-! ### What is written -/

/-- The requests for tests 1 to `count`. -/
def requests (count : Nat) : List Response :=
  (List.range' 1 count).map fun id => .test (UInt32.ofNat id) true

/-- The entry of a result in the judge log. -/
def listed (result : Notification) : TestEntry :=
  { test := result.test
    statusCode := result.statusCode
    kind := result.kind
    parts := if result.kind = .accepted then PartKind.testData else PartKind.test.allBits
    score := some 0 }

/-- The score that judging ends with after a test of this kind. -/
def score (kind : StatusKind) : UInt32 :=
  if kind.isPassed then fullScore else 0

/-- The judge log of these results. -/
def logOf (results : List Notification) : JudgeLog :=
  { name := "main", tests := results.map listed }

/-- The final message after these results, of which the last decides. -/
def verdict (results : List Notification) (last : Notification) : Response :=
  .finish (score last.kind) last.kind.isPassed (logOf (results ++ [last]))

lemma verdict_eq_full_iff {results : List Notification} {last : Notification} {log : JudgeLog} :
    verdict results last = .finish 100 true log ↔
      last.kind.isPassed = true ∧ log = logOf (results ++ [last]) := by
  cases hlast : last.kind.isPassed <;> simp [verdict, score, fullScore, hlast, eq_comm]

lemma verdict_eq_zero_iff {results : List Notification} {last : Notification} {log : JudgeLog} :
    verdict results last = .finish 0 false log ↔
      last.kind.isPassed = false ∧ log = logOf (results ++ [last]) := by
  cases hlast : last.kind.isPassed <;> simp [verdict, score, hlast, eq_comm]

lemma requests_succ (count : Nat) :
    requests (count + 1) = requests count ++ [.test (UInt32.ofNat (count + 1)) true] := by
  rw [requests, List.range'_1_concat, List.map_append, Nat.add_comm 1 count]
  rfl

lemma logged_entry (result : Notification) : logged result.entry = listed result := by
  have hparts : (0 : UInt32) ||| PartKind.testData = PartKind.testData := by decide
  simp [logged, listed, Notification.entry, StatusKind.isPassed, hparts]

lemma addTest_logOf (results : List Notification) (result : Notification) :
    (logOf results).addTest (logged result.entry) = logOf (results ++ [result]) := by
  rw [logged_entry, JudgeLog.addTest, logOf, logOf, List.map_append]
  rfl

lemma validate_logOf_iff (results : List Notification) :
    (logOf results).validate = .ok () ↔ CodesPass results :=
  validate_map_iff (fun _ => rfl) "main" results

/-- The last of these results decides: it is the first failure, or the result of the last test. -/
structure Decides (tests : UInt32) (results : List Notification) (last : Notification) :
    Prop where
  order : InOrder (results ++ [last])
  within : results.length < tests.toNat
  accepted : ∀ result ∈ results, result.kind = .accepted
  ends : last.kind.isPassed = false ∨ results.length + 1 = tests.toNat
  codes : CodesPass (results ++ [last])

lemma isPassed_iff {kind : StatusKind} : kind.isPassed = true ↔ kind = .accepted := by
  simp [StatusKind.isPassed]

section

variable {tests : UInt32} {results : List Notification} {last : Notification}

lemma AllPassed.decides (h : AllPassed tests results) (htests : tests ≠ 0) :
    ∃ more last, results = more ++ [last] ∧ last.kind.isPassed = true ∧
      Decides tests more last := by
  rcases List.eq_nil_or_concat results with rfl | ⟨more, last, rfl⟩
  · exact absurd (UInt32.toNat_inj.mp h.complete.symm) htests
  · rw [List.concat_eq_append] at h ⊢
    have hlength : more.length + 1 = tests.toNat := by
      rw [← h.complete, List.length_append, List.length_singleton]
    obtain ⟨hmore, hlast⟩ := List.forall_mem_append.mp h.accepted
    have hpassed : last.kind.isPassed = true := isPassed_iff.mpr (hlast last (by simp))
    exact ⟨more, last, rfl, hpassed, h.order, by omega, hmore, .inr hlength, h.codes⟩

lemma FirstFailed.isPassed_eq_false (h : FirstFailed tests results last) :
    last.kind.isPassed = false := by
  simpa [StatusKind.isPassed] using h.rejected

lemma FirstFailed.decides (h : FirstFailed tests results last) : Decides tests results last :=
  ⟨h.order, h.within, h.accepted, .inl h.isPassed_eq_false, h.codes⟩

lemma Decides.allPassed (h : Decides tests results last) (hlast : last.kind.isPassed = true) :
    AllPassed tests (results ++ [last]) := by
  have hlength := h.ends.resolve_left (by simp [hlast])
  refine ⟨h.order, ?_, ?_, h.codes⟩
  · rw [List.length_append, List.length_singleton, hlength]
  · rw [List.forall_mem_append, List.forall_mem_singleton]
    exact ⟨h.accepted, isPassed_iff.mp hlast⟩

lemma Decides.firstFailed (h : Decides tests results last) (hlast : last.kind.isPassed = false) :
    FirstFailed tests results last :=
  ⟨h.order, h.within, h.accepted, by simpa [StatusKind.isPassed] using hlast, h.codes⟩

end

/-! ### What the policy does -/

lemma run_start (s : Session) (view : View) (log : JudgeLog) :
    (policy.start view log).run Session.answer s =
      (((s.select 1 true).1, log), (s.select 1 true).2) :=
  rfl

/-- After an accepted test that is not the last, the policy asks for the next one. -/
lemma run_testEnded_next (s : Session) (log : JudgeLog) {entry : TestEntry} {view : View}
    (hkind : entry.kind.isPassed = true) (hnext : entry.test ≠ view.tests) :
    (policy.testEnded entry view log).run Session.answer s =
      (((s.select (entry.test + 1) true).1, log.addTest (logged entry)),
        (s.select (entry.test + 1) true).2) := by
  simp only [policy, testEnded, hkind, hnext, Bool.not_true, Bool.false_eq_true, if_false]
  rfl

/-- After a failure and after the last test the policy ends judging. -/
lemma run_testEnded_end (s : Session) (log : JudgeLog) {entry : TestEntry} {view : View}
    (hend : entry.kind.isPassed = false ∨ entry.test = view.tests) :
    ∃ text, (policy.testEnded entry view log).run Session.answer s =
      ((((s.comment .publicComments text).finish (score entry.kind) entry.kind.isPassed
          (log.addTest (logged entry))).1, {}),
        ((s.comment .publicComments text).finish (score entry.kind) entry.kind.isPassed
          (log.addTest (logged entry))).2) := by
  cases hkind : entry.kind.isPassed with
  | true =>
    have hlast : entry.test = view.tests := hend.resolve_left (by simp [hkind])
    refine ⟨"ok, all tests passed", ?_⟩
    simp only [policy, testEnded, score, hkind, hlast, Bool.not_true, Bool.false_eq_true,
      if_false, if_true]
    rfl
  | false =>
    refine ⟨"solution failed on test " ++ toString entry.test ++ ": (status " ++
      entry.statusCode ++ ")", ?_⟩
    simp only [policy, testEnded, score, hkind, Bool.not_false, Bool.false_eq_true, if_false,
      if_true]
    rfl

/-! ### Waiting for a test -/

/-- Judging is over for a fault of what was read, and only requests for tests were written. -/
def StopsShort (run : Run JudgeLog) : Prop :=
  ∃ fault count, IsReadFault fault ∧ count < UInt32.size ∧ run.status = .over (.error fault) ∧
    run.session.sent = requests count

/-- Judging waits for the test after these accepted ones. -/
structure Waiting (tests : UInt32) (results : List Notification) (run : Run JudgeLog) : Prop where
  status : run.status = .judging
  stage : run.session.stage = .running
  tests_eq : run.session.tests = tests
  pending : run.session.pending = [UInt32.ofNat (results.length + 1)]
  sent : run.session.sent = requests (results.length + 1)
  sound : run.session.health.control.IsSound
  log : run.policy = logOf results
  order : InOrder results
  accepted : ∀ result ∈ results, result.kind = .accepted
  within : results.length < tests.toNat

lemma waiting_of_awaits {tests : UInt32} {results : List Notification} {run : Run JudgeLog}
    (h : Awaits tests results.length run) (hsent : run.session.sent = requests (results.length + 1))
    (hlog : run.policy = logOf results) (horder : InOrder results)
    (haccepted : ∀ result ∈ results, result.kind = .accepted) : Waiting tests results run :=
  ⟨h.status, h.stage, h.tests_eq, h.pending, hsent, h.sound, hlog, horder, haccepted, h.within⟩

namespace Waiting

variable {tests : UInt32} {results : List Notification} {run : Run JudgeLog} {heard : Heard}
  {result : Notification}

lemma awaits (h : Waiting tests results run) : Awaits tests results.length run :=
  ⟨h.status, h.stage, h.tests_eq, h.pending, h.sound, h.within⟩

lemma log_deliver (h : Waiting tests results run) :
    run.policy.addTest (logged result.entry) = logOf (results ++ [result]) := by
  rw [h.log, addTest_logOf]

/-- After the result of a test that is accepted and not the last, the next one is waited for. -/
lemma next (h : Waiting tests results run) (hreport : Reports heard result)
    (htest : result.test.toNat = results.length + 1) (hkind : result.kind = .accepted)
    (hlt : results.length + 1 < tests.toNat) :
    Waiting tests (results ++ [result]) (run.hear Session.answer policy heard) := by
  have hlength : (results ++ [result]).length = results.length + 1 := List.length_append
  have hsucc : result.entry.test + 1 = UInt32.ofNat ((results ++ [result]).length + 1) := by
    rw [hlength]
    exact succ_eq_ofNat htest
  have htests := h.awaits.tests_deliver result
  have hwithin : (results ++ [result]).length < (run.deliver result).session.tests.toNat := by
    rw [htests, hlength]
    exact hlt
  have hview : result.entry.test ≠ (run.deliver result).session.view.tests := by
    change result.test ≠ run.session.tests
    rw [h.tests_eq, ne_eq, ← UInt32.toNat_inj, htest]
    exact hlt.ne
  have hpassed : result.entry.kind.isPassed = true := by
    simp [Notification.entry, StatusKind.isPassed, hkind]
  have htalk := run_testEnded_next (run.deliver result).session run.policy hpassed hview
  rw [hsucc, h.log_deliver] at htalk
  obtain ⟨hawaits, hpolicy, -, hsent⟩ := call_of_select policy (.testEnded result.entry)
    (run.deliver result) (by simp) (h.awaits.isSound_deliver result)
    (h.awaits.isOpen_deliver result) (h.awaits.pending_deliver htest) hwithin htalk
  rw [h.awaits.hear_eq_call policy hreport htest]
  refine waiting_of_awaits (htests ▸ hawaits) ?_ hpolicy
    (InOrder.concat_iff.mpr ⟨h.order, htest⟩) ?_
  · rw [hsent, Run.sent_deliver, h.sent, hlength, requests_succ (results.length + 1)]
  · intro r hmem
    rcases List.mem_append.mp hmem with hmem | hmem
    · exact h.accepted r hmem
    · exact List.mem_singleton.mp hmem ▸ hkind

/-- A result after which the policy ends judging, which it does if every status code can travel. -/
lemma ends (h : Waiting tests results run) (hreport : Reports heard result)
    (htest : result.test.toNat = results.length + 1)
    (hend : result.kind.isPassed = false ∨ results.length + 1 = tests.toNat) :
    (CodesPass (results ++ [result]) →
      (run.hear Session.answer policy heard).status = .over (.ok ()) ∧
        (run.hear Session.answer policy heard).session.sent =
          requests (results.length + 1) ++ [verdict results result]) ∧
    (¬CodesPass (results ++ [result]) → ∃ fault, IsReadFault fault ∧
      (run.hear Session.answer policy heard).status = .over (.error fault) ∧
        (run.hear Session.answer policy heard).session.sent = requests (results.length + 1)) := by
  have hview : result.entry.kind.isPassed = false ∨
      result.entry.test = (run.deliver result).session.view.tests := by
    refine hend.imp_right fun hlast => ?_
    change result.test = run.session.tests
    rw [h.tests_eq, ← UInt32.toNat_inj, htest, hlast]
  obtain ⟨text, htalk⟩ := run_testEnded_end (run.deliver result).session run.policy hview
  rw [h.log_deliver] at htalk
  -- the comment leaves the session as able to end as it was
  have hsame := (run.deliver result).session.alike_comment .contestant text
  have hsent := hsame.sent_eq.trans ((run.sent_deliver result).trans h.sent)
  obtain ⟨hvalid, hinvalid⟩ := call_of_finish policy (.testEnded result.entry)
    (run.deliver result) (by simp) (hsame.isSound (h.awaits.isSound_deliver result))
    (hsame.isOpen_eq.trans (h.awaits.isOpen_deliver result)) htalk
  rw [hsent, validate_logOf_iff] at hvalid
  rw [hsent, ne_eq, validate_logOf_iff] at hinvalid
  rw [h.awaits.hear_eq_call policy hreport htest]
  exact ⟨hvalid, hinvalid⟩

/-- When what is said decides judging, the policy ends it with the verdict. -/
lemma decided {done more : List Notification} {last : Notification} {said : List Heard}
    (h : Waiting tests done run) (htold : Tells said (more ++ [last]))
    (hdecides : Decides tests (done ++ more) last) :
    (run.listen policy said).status = .over (.ok ()) ∧
      (run.listen policy said).session.sent =
        requests ((done ++ more).length + 1) ++ [verdict (done ++ more) last] := by
  induction more generalizing done run said with
  | nil =>
    cases said with
    | nil => exact htold.elim
    | cons heard said =>
      rw [List.append_nil] at hdecides ⊢
      have htest := (InOrder.concat_iff.mp hdecides.order).2
      obtain ⟨hstatus, hsent⟩ := (h.ends htold.1 htest hdecides.ends).1 hdecides.codes
      rw [Run.listen_cons, Run.listen_of_over policy hstatus]
      exact ⟨hstatus, hsent⟩
  | cons result more ih =>
    cases said with
    | nil => exact htold.elim
    | cons heard said =>
      rw [List.append_cons done result more] at hdecides ⊢
      have htest := (InOrder.concat_iff.mp hdecides.order.of_append.of_append).2
      have hkind := hdecides.accepted result (by simp)
      have hlt : done.length + 1 < tests.toNat := by
        have hwithin := hdecides.within
        simp only [List.length_append, List.length_singleton] at hwithin
        omega
      rw [Run.listen_cons]
      exact ih (h.next htold.1 htest hkind hlt) htold.2 hdecides

lemma stopsShort (h : Waiting tests results run) (said : List Heard)
    (hnone : ∀ result, Reports heard result → result.test.toNat ≠ results.length + 1) :
    StopsShort (run.listen policy (heard :: said)) := by
  obtain ⟨fault, hfault, hhear⟩ := h.awaits.stops policy hnone
  rw [Run.listen_cons, hhear, Run.listen_of_over policy rfl]
  exact ⟨fault, results.length + 1, hfault, h.awaits.count_lt, rfl, h.sent⟩

/-- When what is said does not decide judging, it ends without a verdict. -/
lemma undecided {done : List Notification} (h : Waiting tests done run) (lines : List Heard)
    (hnone : ∀ more last, Tells (lines ++ [.ended]) (more ++ [last]) →
      ¬Decides tests (done ++ more) last) :
    StopsShort (run.listen policy (lines ++ [.ended])) := by
  induction lines generalizing done run with
  | nil => exact h.stopsShort [] fun result ⟨line, heq, _⟩ => by cases heq
  | cons heard lines ih =>
    rw [List.cons_append] at hnone ⊢
    -- only the result of the test that is waited for leads on
    by_cases hnext : ∃ result, Reports heard result ∧ result.test.toNat = done.length + 1
    · obtain ⟨result, hreport, htest⟩ := hnext
      by_cases hend : result.kind.isPassed = false ∨ done.length + 1 = tests.toNat
      · have hcodes : ¬CodesPass (done ++ [result]) := by
          intro hcodes
          refine hnone [] result ⟨hreport, tells_nil _⟩ ?_
          rw [List.append_nil]
          have horder := InOrder.concat_iff.mpr ⟨h.order, htest⟩
          exact ⟨horder, h.within, h.accepted, hend, hcodes⟩
        obtain ⟨fault, hfault, hstatus, hsent⟩ := (h.ends hreport htest hend).2 hcodes
        rw [Run.listen_cons, Run.listen_of_over policy hstatus]
        exact ⟨fault, done.length + 1, hfault, h.awaits.count_lt, hstatus, hsent⟩
      · rw [not_or, Bool.not_eq_false] at hend
        have hlt : done.length + 1 < tests.toNat := lt_of_le_of_ne h.within hend.2
        rw [Run.listen_cons]
        refine ih (h.next hreport htest (isPassed_iff.mp hend.1) hlt) fun more last htold => ?_
        rw [← List.append_cons]
        exact hnone (result :: more) last ⟨hreport, htold⟩
    · refine h.stopsShort (lines ++ [.ended]) fun result hreport htest => ?_
      exact hnext ⟨result, hreport, htest⟩

end Waiting

/-! ### Judging with the policy -/

section

variable (health : PerPipe Health)

lemma status_begin :
    (Run.begin Session.answer policy fresh { health }).status = .counting :=
  rfl

lemma waiting_call_start {run : Run JudgeLog} {tests : UInt32}
    (hsound : run.session.health.control.IsSound) (hopen : run.session.isOpen = true)
    (hpending : run.session.pending = []) (hsent : run.session.sent = [])
    (htests : run.session.tests = tests) (hwithin : 0 < tests.toNat)
    (hlog : run.policy = fresh) : Waiting tests [] (run.call policy .start) := by
  obtain ⟨hawaits, hpolicy, -, hsent₁⟩ := call_of_select policy .start run (by simp) hsound hopen
    hpending (htests ▸ hwithin) (run_start run.session run.session.view run.policy)
  have haccepted : ∀ result ∈ ([] : List Notification), result.kind = .accepted :=
    fun _ hmem => absurd hmem List.not_mem_nil
  refine waiting_of_awaits (htests ▸ hawaits) ?_ (hpolicy.trans hlog) rfl haccepted
  rw [hsent₁, hsent]
  rfl

/-- The first test is waited for once the number of tests is heard. -/
lemma waiting_hear (hsound : health.control.IsSound) {first : Heard} {tests : UInt32}
    (hcount : Counts first tests) :
    Waiting tests [] ((Run.begin Session.answer policy fresh { health }).hear Session.answer policy
      first) := by
  rw [hear_of_counts policy (status_begin health) hcount]
  exact waiting_call_start hsound rfl rfl rfl rfl hcount.pos rfl

lemma stopsShort_of_uncounted {first : Heard} (hcount : ∀ tests, ¬Counts first tests)
    (said : List Heard) :
    StopsShort (judgeUntil policy fresh { health } (first :: said)) := by
  obtain ⟨fault, hfault, hhear⟩ := hear_of_uncounted policy (status_begin health) hcount
  rw [judgeUntil, Run.listen_cons, hhear, Run.listen_of_over policy rfl]
  exact ⟨fault, 0, hfault, by decide, rfl, rfl⟩

/-- What decides judging makes the policy end it with the verdict. -/
lemma judgeUntil_of_begins (hsound : health.control.IsSound) {said : List Heard} {tests : UInt32}
    {more : List Notification} {last : Notification} (hbegins : Begins said tests (more ++ [last]))
    (hdecides : Decides tests more last) :
    (judgeUntil policy fresh { health } said).status = .over (.ok ()) ∧
      (judgeUntil policy fresh { health } said).session.sent =
        requests (more.length + 1) ++ [verdict more last] := by
  obtain ⟨first, rest, rfl, hcount, htold⟩ := hbegins
  exact (waiting_hear health hsound hcount).decided htold hdecides

/-- Without a decision, judging ends without a verdict. -/
lemma stopsShort_judgeUntil (hsound : health.control.IsSound) (lines : List Heard)
    (hnone : ∀ tests more last, Begins (lines ++ [.ended]) tests (more ++ [last]) →
      ¬Decides tests more last) :
    StopsShort (judgeUntil policy fresh { health } (lines ++ [.ended])) := by
  cases lines with
  | nil => exact stopsShort_of_uncounted health (fun tests ⟨line, heq, _⟩ => by cases heq) []
  | cons first rest =>
    by_cases hcount : ∃ tests, Counts first tests
    · obtain ⟨tests, hcount⟩ := hcount
      refine (waiting_hear health hsound hcount).undecided rest fun more last htold => ?_
      exact hnone tests more last ⟨first, rest ++ [.ended], rfl, hcount, htold⟩
    · exact stopsShort_of_uncounted health (not_exists.mp hcount) (rest ++ [.ended])

/-- All decisions of what is said come to the same verdict. -/
lemma verdict_unique (hsound : health.control.IsSound) {said : List Heard}
    {tests tests' : UInt32} {more more' : List Notification} {last last' : Notification}
    (hbegins : Begins said tests (more ++ [last])) (hdecides : Decides tests more last)
    (hbegins' : Begins said tests' (more' ++ [last'])) (hdecides' : Decides tests' more' last') :
    verdict more' last' = verdict more last := by
  have hsent := (judgeUntil_of_begins health hsound hbegins hdecides).2
  have hsent' := (judgeUntil_of_begins health hsound hbegins' hdecides').2
  exact List.singleton_inj.mp (List.append_inj' (hsent'.symm.trans hsent) rfl).2

/-- **The policy of ICPC contests is sound and complete against any harness.** It asks for tests 1,
2, and so on, and then writes at most one final message: full score when it was told that all tests
passed, in order; zero when it was told of a first failure, in order; each with the results it was
told of. Everything else ends in a fault of what was read, without a final message. -/
theorem written_control_eq (hsound : health.control.IsSound) (input : List UInt8) :
    let run := (judge Session.answer policy fresh { health } input).1
    ∃ (count : Nat) (final : Option Response), count < UInt32.size ∧
      run.session.written .control =
        String.join ((requests count ++ final.toList).map Response.render) ∧
      (∀ log, final = some (.finish 100 true log) ↔ ∃ tests results,
        Begins (heards input) tests results ∧ AllPassed tests results ∧ log = logOf results) ∧
      (∀ log, final = some (.finish 0 false log) ↔ ∃ tests passed failed,
        Begins (heards input) tests (passed ++ [failed]) ∧ FirstFailed tests passed failed ∧
          log = logOf (passed ++ [failed])) ∧
      (∀ response, final = some response → run.status = .over (.ok ()) ∧
        ∃ log, response = .finish 100 true log ∨ response = .finish 0 false log) ∧
      (final = none → ∃ fault, IsReadFault fault ∧ run.status = .over (.error fault)) := by
  intro run
  have hrun : run = judgeUntil policy fresh { health } (heards input) :=
    judge_eq_judgeUntil policy fresh { health } input
  have hwritten : run.session.written .control =
      String.join (run.session.sent.map Response.render) :=
    hrun ▸ written_judgeUntil policy fresh hsound (heards input)
  -- both verdicts are read off one decision, of which there is at most one
  by_cases hdecided : ∃ tests more last, Begins (heards input) tests (more ++ [last]) ∧
      Decides tests more last
  · obtain ⟨tests, more, last, hbegins, hdecides⟩ := hdecided
    obtain ⟨hstatus, hsent⟩ := judgeUntil_of_begins health hsound hbegins hdecides
    rw [← hrun] at hstatus hsent
    have hcount : more.length + 1 < UInt32.size := lt_of_le_of_lt hdecides.within tests.toNat_lt
    refine ⟨more.length + 1, some (verdict more last), hcount, ?_, fun log => ⟨?_, ?_⟩,
      fun log => ⟨?_, ?_⟩, ?_, nofun⟩
    · rw [hwritten, hsent, Option.toList_some]
    · intro hfinal
      obtain ⟨hlast, hlog⟩ := verdict_eq_full_iff.mp (Option.some.inj hfinal)
      exact ⟨tests, more ++ [last], hbegins, hdecides.allPassed hlast, hlog⟩
    · rintro ⟨tests', results, hbegins', hpassed, hlog⟩
      obtain ⟨more', last', rfl, hlast, hdecides'⟩ := hpassed.decides hbegins'.ne_zero
      rw [← verdict_unique health hsound hbegins hdecides hbegins' hdecides']
      exact congrArg some (verdict_eq_full_iff.mpr ⟨hlast, hlog⟩)
    · intro hfinal
      obtain ⟨hlast, hlog⟩ := verdict_eq_zero_iff.mp (Option.some.inj hfinal)
      exact ⟨tests, more, last, hbegins, hdecides.firstFailed hlast, hlog⟩
    · rintro ⟨tests', passed, failed, hbegins', hfailed, hlog⟩
      rw [← verdict_unique health hsound hbegins hdecides hbegins' hfailed.decides]
      exact congrArg some (verdict_eq_zero_iff.mpr ⟨hfailed.isPassed_eq_false, hlog⟩)
    · intro response hfinal
      refine ⟨hstatus, logOf (more ++ [last]), ?_⟩
      rw [← Option.some.inj hfinal]
      cases hlast : last.kind.isPassed with
      | true => exact .inl (verdict_eq_full_iff.mpr ⟨hlast, rfl⟩)
      | false => exact .inr (verdict_eq_zero_iff.mpr ⟨hlast, rfl⟩)
  · have hshort : StopsShort run := by
      rw [hrun]
      refine stopsShort_judgeUntil health hsound _ fun tests more last hbegins hdecides => ?_
      exact hdecided ⟨tests, more, last, hbegins, hdecides⟩
    obtain ⟨fault, count, hfault, hcount, hstatus, hsent⟩ := hshort
    refine ⟨count, none, hcount, ?_, fun log => iff_of_false nofun ?_,
      fun log => iff_of_false nofun ?_, nofun, fun _ => ⟨fault, hfault, hstatus⟩⟩
    · rw [hwritten, hsent, Option.toList_none, List.append_nil]
    · rintro ⟨tests, results, hbegins, hpassed, -⟩
      obtain ⟨more, last, rfl, -, hdecides⟩ := hpassed.decides hbegins.ne_zero
      exact hdecided ⟨tests, more, last, hbegins, hdecides⟩
    · rintro ⟨tests, passed, failed, hbegins, hfailed, -⟩
      exact hdecided ⟨tests, passed, failed, hbegins, hfailed.decides⟩

end

/-- After the failure of test 2 the final message lists both tests. -/
theorem written_control_eq_failed :
    let results : List Notification := [⟨1, .accepted, "OK"⟩, ⟨2, .rejected, "WA"⟩]
    let input := Utf8.encode "2\n1 Accepted OK\n2 Rejected WA\n"
    let run := (judge Session.answer policy fresh {} input).1
    run.session.written .control =
        "RUN 1 1\nRUN 2 1\nDONE 0 0\n2\n1 Accepted OK 1\n2 Rejected WA 7\n0\n" ∧
      run.status = .over (.ok ()) ∧
      ∃ count < UInt32.size, run.session.written .control =
        String.join ((requests count ++ [Response.finish 0 false (logOf results)]).map
          Response.render) := by
  intro results input run
  have hheards : heards input = [.line (some "2"), .line (some "1 Accepted OK"),
      .line (some "2 Rejected WA"), .ended] := by
    decide +kernel
  have hbegins : Begins (heards input) 2 results := by
    refine ⟨.line (some "2"), _, hheards, ⟨_, rfl, by decide +kernel, by decide⟩, ?_⟩
    exact ⟨⟨_, rfl, by decide +kernel⟩, ⟨_, rfl, by decide +kernel⟩, tells_nil _⟩
  have hfailed : FirstFailed 2 [⟨1, .accepted, "OK"⟩] ⟨2, .rejected, "WA"⟩ := by
    refine ⟨rfl, by decide, by decide, by decide, ?_⟩
    simp only [CodesPass, checkStatusCode_eq_ok_iff]
    decide
  obtain ⟨count, final, hcount, hwritten, -, hfinal, hover, -⟩ :=
    written_control_eq ⟨.sound, .sound, .sound⟩ (fun _ _ => rfl) input
  have hverdict := (hfinal (logOf results)).mpr ⟨2, _, _, hbegins, hfailed, rfl⟩
  rw [hverdict] at hwritten
  exact ⟨by decide +kernel, (hover _ hverdict).1, count, hcount, hwritten⟩

end Jury.Valuer.Icpc
