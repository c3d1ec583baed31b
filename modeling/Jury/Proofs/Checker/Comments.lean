import Jury.Proofs.Checker.Verdict
import Jury.Proofs.Dialogue

/-!
# What comments have to do with the verdict

Comments that cannot be written are lost without a trace: whatever becomes of them, a checker is
answered alike and ends alike. But the comment channel is flushed before the verdict is written,
and if that fails there is no verdict (`evaluate_verdict_of_flush`).
-/

namespace Jury.Checker

namespace Session

/-- Whether two sessions that came from `first` and `first'` differ in their comment channels only,
which were used equally often since, and have no verdict yet. -/
structure Parallel (first first' s t : Session) : Prop where
  same : t = { s with comments := t.comments }
  verdict : s.verdict = first.verdict
  used : ∃ count, s.comments.health = first.comments.health.after count ∧
    t.comments.health = first'.comments.health.after count

variable {first first' s t : Session}

lemma Parallel.reader_eq (hst : Parallel first first' s t) (stream : Stream) :
    t.reader stream = s.reader stream := by
  rw [hst.same]
  rfl

lemma Parallel.setReader (hst : Parallel first first' s t) (stream : Stream) (r : TokenReader) :
    Parallel first first' (s.setReader stream r) (t.setReader stream r) := by
  refine ⟨?_, hst.verdict, hst.used⟩
  rw [hst.same]
  rfl

lemma Parallel.comment (hst : Parallel first first' s t) (text : String) :
    Parallel first first' (s.comment text) (t.comment text) := by
  obtain ⟨hsame, hverdict, count, hs, ht⟩ := hst
  refine ⟨?_, hverdict, count + 1, ?_, ?_⟩
  · rw [hsame]
    rfl
  · rw [Session.comment, Channel.health_write, hs]
    rfl
  · rw [Session.comment, Channel.health_write, ht]
    rfl

lemma Parallel.nextToken (hst : Parallel first first' s t) (stream : Stream) :
    (s.nextToken stream).1 = (t.nextToken stream).1 ∧
      Parallel first first' (s.nextToken stream).2 (t.nextToken stream).2 := by
  rw [Session.nextToken, Session.nextToken, hst.reader_eq]
  generalize (s.reader stream).next = answer
  obtain ⟨result, r⟩ := answer
  cases result with
  | ok token => exact ⟨rfl, hst.setReader stream r⟩
  | error cause => exact ⟨rfl, (hst.setReader stream r).comment _⟩

lemma Parallel.checkEnd (hst : Parallel first first' s t) (stream : Stream) :
    (s.checkEnd stream).1 = (t.checkEnd stream).1 ∧
      Parallel first first' (s.checkEnd stream).2 (t.checkEnd stream).2 := by
  rw [Session.checkEnd, Session.checkEnd, hst.reader_eq]
  generalize (s.reader stream).isAtEnd = answer
  obtain ⟨result, r⟩ := answer
  rcases result with cause | (_ | _)
  · exact ⟨rfl, hst.setReader stream r⟩
  · exact ⟨rfl, (hst.setReader stream r).comment _⟩
  · exact ⟨rfl, hst.setReader stream r⟩

lemma Parallel.scan (hst : Parallel first first' s t) (stream : Stream) (type : ValueType) :
    (s.scan stream type).1 = (t.scan stream type).1 ∧
      Parallel first first' (s.scan stream type).2 (t.scan stream type).2 := by
  obtain ⟨hanswer, hnext⟩ := hst.nextToken stream
  rw [Session.scan, Session.scan]
  generalize s.nextToken stream = answer at hanswer hnext ⊢
  generalize t.nextToken stream = answer' at hanswer hnext ⊢
  obtain ⟨result, s'⟩ := answer
  obtain ⟨result', t'⟩ := answer'
  obtain rfl : result = result' := hanswer
  rcases result with stop | (_ | token)
  · exact ⟨rfl, hnext⟩
  · exact ⟨rfl, hnext.comment _⟩
  · dsimp only
    cases type.parse? token with
    | some value => exact ⟨rfl, hnext⟩
    | none => exact ⟨rfl, hnext.comment _⟩

end Session

/-- What becomes of comments changes no answer. -/
lemma simulates_parallel (first first' : Session) :
    Dialogue.Simulates Session.answer Session.answer (Session.Parallel first first') := by
  intro s t hst request
  cases request with
  | next stream =>
    obtain ⟨hanswer, hnext⟩ := hst.nextToken stream
    exact ⟨congrArg (Except.map Answer.token) hanswer, hnext⟩
  | scan stream type =>
    obtain ⟨hanswer, hnext⟩ := hst.scan stream type
    exact ⟨congrArg (Except.map Answer.value) hanswer, hnext⟩
  | checkEnd stream =>
    obtain ⟨hanswer, hnext⟩ := hst.checkEnd stream
    exact ⟨congrArg (Except.map fun _ => Answer.done) hanswer, hnext⟩
  | comment text => exact ⟨rfl, hst.comment text⟩

/-- Whatever the comment channel, a logic comes to the same result, and has used the channel as
often as one that works. -/
lemma Logic.run_withComments (logic : Logic) (s : Session) (comments : Channel) :
    let actual := logic.run Session.answer { s with comments }
    let working := logic.run Session.answer { s with comments := {} }
    actual.1 = working.1 ∧ actual.2.verdict = s.verdict ∧ working.2.verdict = s.verdict ∧
      working.2.comments.health.IsSound ∧
      actual.2.comments.health = comments.health.after working.2.comments.health.used := by
  intro actual working
  have hstart : Session.Parallel { s with comments := {} } { s with comments }
      { s with comments := {} } { s with comments } := ⟨rfl, rfl, 0, rfl, rfl⟩
  obtain ⟨-, hvalue, hsame, hverdict, count, hworking, hactual⟩ :=
    logic.run_simulates (simulates_parallel _ _) hstart
  have hcount : working.2.comments.health.used = count :=
    (congrArg Health.used hworking).trans (Nat.zero_add count)
  refine ⟨hvalue.symm, ?_, hverdict, ?_, ?_⟩
  · exact (congrArg Session.verdict hsame).trans hverdict
  · exact hworking ▸ fun _ _ => rfl
  · rw [hcount]
    exact hactual

/-! ### The last flush -/

namespace Session

variable {s t : Session}

/-- When the comments can be flushed, writing the verdict is a matter of its own channel. -/
lemma conclude_of_flush_ok (hverdict : t.verdict = s.verdict) (hs : s.comments.flush.1 = .ok ())
    (ht : t.comments.flush.1 = .ok ()) (outcome : Outcome) :
    (t.conclude outcome).1 = (s.conclude outcome).1 ∧
      (t.conclude outcome).2.verdict = (s.conclude outcome).2.verdict := by
  rw [conclude, conclude, hverdict]
  generalize s.comments.flush = flushed at hs ⊢
  generalize t.comments.flush = flushed' at ht ⊢
  obtain ⟨result, comments⟩ := flushed
  obtain ⟨result', comments'⟩ := flushed'
  obtain rfl : result = _ := hs
  obtain rfl : result' = _ := ht
  dsimp only
  generalize s.verdict.write (Verdict.render outcome) = written
  obtain ⟨result, verdict⟩ := written
  cases result <;> exact ⟨rfl, rfl⟩

/-- When they cannot, there is no verdict. -/
lemma conclude_of_flush_error {cause : IoFault} (hs : s.comments.flush.1 = .error cause)
    (outcome : Outcome) :
    (s.conclude outcome).1 = .error cause ∧ (s.conclude outcome).2.verdict = s.verdict := by
  rw [conclude]
  generalize s.comments.flush = flushed at hs ⊢
  obtain ⟨result, comments⟩ := flushed
  obtain rfl : result = _ := hs
  exact ⟨rfl, rfl⟩

/-- The same holds of any end of the session. -/
lemma finish_of_flush_ok (hverdict : t.verdict = s.verdict) (hs : s.comments.flush.1 = .ok ())
    (ht : t.comments.flush.1 = .ok ()) (result : Except Stop Outcome) :
    (t.finish result).1 = (s.finish result).1 ∧
      (t.finish result).2.verdict = (s.finish result).2.verdict := by
  cases hreached : reached result with
  | error crash =>
    rw [finish_of_crashed hreached, finish_of_crashed hreached]
    exact ⟨rfl, hverdict⟩
  | ok outcome =>
    obtain ⟨hresult, hsame⟩ := conclude_of_flush_ok hverdict hs ht outcome
    rw [finish_of_reached hreached, finish_of_reached hreached, hresult]
    exact ⟨rfl, hsame⟩

lemma finish_of_flush_error {cause : IoFault} (hs : s.comments.flush.1 = .error cause)
    (result : Except Stop Outcome) :
    (s.finish result).2.verdict = s.verdict ∧
      (s.finish result).1 = match reached result with
        | .ok _ => .error (.verdictUnwritable cause)
        | .error crash => .error crash := by
  cases hreached : reached result with
  | error crash =>
    rw [finish_of_crashed hreached]
    exact ⟨rfl, rfl⟩
  | ok outcome =>
    obtain ⟨hresult, hsame⟩ := conclude_of_flush_error hs outcome
    rw [finish_of_reached hreached, hresult]
    exact ⟨hsame, rfl⟩

end Session

/-- **Diagnostics influence the verdict by the last flush only.** What befalls the comments that
are written makes no difference. If the flush after them goes well, the checker ends as on a
comment channel that works, with the same verdict. If it fails, no verdict is written. The same is
true of a verdict that is given at once. -/
theorem evaluate_verdict_of_flush (s : Session) (logic : Logic) (comments : Channel) :
    let actual : Session := { s with comments }
    let working : Session := { s with comments := {} }
    let result := (logic.run Session.answer working).1
    let count := (logic.run Session.answer working).2.comments.health.used
    (∀ outcome,
      (comments.health.breakage .flush comments.health.used = none →
        (actual.conclude outcome).1 = (working.conclude outcome).1 ∧
          (actual.conclude outcome).2.verdict = (working.conclude outcome).2.verdict) ∧
      ∀ b, comments.health.breakage .flush comments.health.used = some b →
        (actual.conclude outcome).1 = .error b.cause ∧
          (actual.conclude outcome).2.verdict = s.verdict) ∧
    (comments.health.breakage .flush (comments.health.used + count) = none →
      (actual.evaluate logic).1 = (working.evaluate logic).1 ∧
        (actual.evaluate logic).2.verdict = (working.evaluate logic).2.verdict) ∧
    ∀ b, comments.health.breakage .flush (comments.health.used + count) = some b →
      (actual.evaluate logic).2.verdict = s.verdict ∧
        (actual.evaluate logic).1 = match reached result with
          | .ok _ => .error (.verdictUnwritable b.cause)
          | .error crash => .error crash := by
  intro actual working result count
  obtain ⟨hvalue, hactual, hworking, hsound, hhealth⟩ := logic.run_withComments s comments
  have hflush : (logic.run Session.answer actual).2.comments.health.breakage .flush
      (logic.run Session.answer actual).2.comments.health.used =
        comments.health.breakage .flush (comments.health.used + count) := by
    rw [hhealth]
    rfl
  rw [Session.evaluate_eq, Session.evaluate_eq, hvalue]
  refine ⟨fun outcome => ⟨fun hnone => ?_, fun b hsome => ?_⟩, fun hnone => ?_, fun b hsome => ?_⟩
  · exact Session.conclude_of_flush_ok (s := working) (t := actual) rfl rfl
      (Channel.flush_ok hnone) outcome
  · exact Session.conclude_of_flush_error (s := actual) (Channel.flush_error hsome) outcome
  · exact Session.finish_of_flush_ok (hactual.trans hworking.symm)
      (Channel.flush_ok (hsound _ _)) (Channel.flush_ok (hflush.trans hnone)) _
  · obtain ⟨hverdict, hresult⟩ :=
      Session.finish_of_flush_error (Channel.flush_error (hflush.trans hsome)) result
    exact ⟨hverdict.trans hactual, hresult⟩

/-- A comment that the channel does not take is lost, and the verdict is written. -/
theorem evaluate_verdict_of_flush_refused :
    let s := Session.ofBytes [] [] []
    let comments : Channel := { health := .refusing .noSpace }
    let actual : Session := { s with comments }
    let logic := Logic.ofRequests .wrongAnswer [.comment "wrong"]
    (actual.evaluate logic).2.comments.text = "" ∧
      (actual.evaluate logic).2.verdict.text = "outcome=WrongAnswer\n" := by
  intro s comments actual logic
  obtain ⟨-, hworking, -⟩ := evaluate_verdict_of_flush s logic comments
  obtain ⟨-, hverdict⟩ := hworking rfl
  exact ⟨rfl, congrArg Channel.text hverdict⟩

/-- Over a comment channel that cannot be flushed the verdict is lost. -/
theorem verdict_lost :
    let working := Session.ofBytes [] [] []
    let actual : Session := { working with comments := { health := .broken .brokenChannel } }
    (working.conclude .ok).2.verdict.text = "outcome=Ok\n" ∧
      (actual.conclude .ok).2.verdict.text = "" ∧
      (working.evaluate (.done (.ok .ok))).2.verdict.text = "outcome=Ok\n" ∧
      (actual.evaluate (.done (.ok .ok))).2.verdict.text = "" := by
  refine ⟨?_, ?_, ?_, ?_⟩ <;> rfl

end Jury.Checker
