import Jury.Proofs.Valuer.BrokenChannels
import Jury.Proofs.Valuer.Icpc
import Jury.Proofs.Valuer.PartialCredit
import Mathlib.Data.List.Nodup
import Mathlib.Data.List.Perm.Subperm

/-!
# The tests that a judge log lists

A session checks the status codes of the judge log that it sends and nothing else
(`Move.finish_iff`): the tests that are listed, and their order, are the policy's own
(`ids_of_finish`). What can be said of them comes from what the policy was told. A test that it was
told of is one that it asked for, so it is a test of the problem; it was told of each request at
most once; and a policy that asks for one test at a time is told of them in the order in which it
asked. The policies of ICPC contests and of partial credit list the tests of the problem in
ascending order (`Icpc.ascends_of_sent`, `PartialCredit.ascends_of_sent`).
-/

namespace Jury

namespace Control

/-- The tests that a judge log lists, in order. -/
def JudgeLog.ids (log : JudgeLog) : List UInt32 :=
  log.tests.map (·.test)

/-- Whether a judge log lists tests of a problem with so many tests, in ascending order. -/
structure JudgeLog.Ascends (log : JudgeLog) (tests : UInt32) : Prop where
  ascending : log.ids.Pairwise (· < ·)
  within : ∀ id ∈ log.ids, 1 ≤ id ∧ id ≤ tests

/-- The test that a message asks for. -/
def Response.test? : Response → Option UInt32
  | test id _ => some id
  | _ => none

end Control

namespace Valuer

open Jury.Control
open Jury.Text (IsSolid)

variable {σ : Type}

/-! ### The tests of a session -/

namespace Session

/-- The tests that were asked for, in order. -/
def requested (s : Session) : List UInt32 :=
  s.sent.filterMap Response.test?

/-- The tests that the policy was told of, in order. -/
def reported (s : Session) : List UInt32 :=
  s.handed.map (·.test)

lemma requests_eq_count (s : Session) (test : UInt32) :
    s.requests test = s.requested.count test := by
  rw [requests, requested, List.count, List.countP_filterMap]
  congr 1
  funext response
  cases response <;> rfl

lemma answers_eq_count (s : Session) (test : UInt32) :
    s.answers test = s.reported.count test := by
  rw [answers, reported, List.count, List.countP_map]
  rfl

/-- What was asked for is what was told, and what is pending. -/
lemma Balanced.perm {s : Session} (hs : s.Balanced) :
    (s.reported ++ s.pending).Perm s.requested := by
  refine List.perm_iff_count.mpr fun test => ?_
  rw [List.count_append, ← requests_eq_count, ← answers_eq_count, hs.balance, hs.nodup.count]

lemma requested_of_sent {s s' : Session} {response : Option Response}
    (h : s'.sent = s.sent ++ response.toList) :
    s'.requested = s.requested ++ (response.bind Response.test?).toList := by
  rw [requested, h, List.filterMap_append, requested]
  rcases response with _ | response
  · rfl
  · cases h : response.test? <;> simp [h]

lemma reported_of_handed {s s' : Session} {entry : Option TestEntry}
    (h : s'.handed = s.handed ++ entry.toList) :
    s'.reported = s.reported ++ (entry.map (·.test)).toList := by
  rw [reported, h, List.map_append, reported]
  cases entry <;> rfl

end Session

/-- What a step does to the tests of a session. -/
inductive Step.Books (step : Step) : Prop
  | asked {test : UInt32} {live : Bool} {view : View}
      (hcause : step.cause = .asked (.select test live) ⟨.ok (), view⟩)
      (hfirst : 1 ≤ test) (hlast : test ≤ step.before.tests)
      (htests : step.after.tests = step.before.tests)
      (hpending : step.after.pending = test :: step.before.pending)
      (hrequested : step.after.requested = step.before.requested ++ [test])
      (hreported : step.after.reported = step.before.reported)
  | told {test : UInt32} (hmem : test ∈ step.before.pending)
      (htests : step.after.tests = step.before.tests)
      (hpending : step.after.pending = step.before.pending.erase test)
      (hrequested : step.after.requested = step.before.requested)
      (hreported : step.after.reported = step.before.reported ++ [test])
  | kept (htests : step.before.IsEarly ∨ step.after.tests = step.before.tests)
      (hpending : step.after.pending = step.before.pending)
      (hrequested : step.after.requested = step.before.requested)
      (hreported : step.after.reported = step.before.reported)

lemma Rule.books {step : Step} (h : Rule step) : step.Books := by
  have hrequested := Session.requested_of_sent h.sent_eq
  have hreported := Session.reported_of_handed h.handed_eq
  cases h with
  | asked heffect =>
    cases heffect with
    | refused fault => exact .kept (.inr rfl) rfl rfl rfl
    | selected test live hopen hfirst hlast hnew =>
      exact .asked rfl hfirst hlast rfl rfl hrequested (hreported.trans (List.append_nil _))
    | scored score hopen =>
      exact .kept (.inr rfl) rfl (hrequested.trans (List.append_nil _))
        (hreported.trans (List.append_nil _))
    | finished score full log hopen hlog =>
      exact .kept (.inr rfl) rfl (hrequested.trans (List.append_nil _))
        (hreported.trans (List.append_nil _))
    | commented audience text health written hcontrol =>
      exact .kept (.inr rfl) rfl (hrequested.trans (List.append_nil _))
        (hreported.trans (List.append_nil _))
    | kept log => exact .kept (.inr rfl) rfl rfl rfl
  | testEnded s result hpending =>
    exact .told hpending rfl rfl (hrequested.trans (List.append_nil _)) hreported
  | start s tests hstage => exact .kept (.inl (.inr hstage)) rfl rfl rfl
  | _ => exact .kept (.inr rfl) rfl rfl rfl

lemma sent_afterTear (s : Session) (text : String) (count : Nat) :
    (s.afterTear text count).sent = s.sent :=
  (Session.sent_of_history (.torn text) rfl).trans (List.append_nil _)

lemma handed_afterTear (s : Session) (text : String) (count : Nat) :
    (s.afterTear text count).handed = s.handed :=
  (Session.handed_of_history (.torn text) rfl).trans (List.append_nil _)

/-- Also on channels that fail a step asks for a test, tells of one, or leaves the tests alone. -/
lemma Move.books {step : Step} (h : Move step) : step.Books := by
  cases h with
  | ruled hrule hcause => exact hrule.books
  | @asked s _ request result hperform =>
    cases attempt_of_perform hperform with
    | settled heffect hdelivers => exact (Rule.asked heffect).books
    | @torn _ hmessage cause text htext count hopen hnot =>
      refine .kept (.inr rfl) rfl ?_ ?_
      · exact congrArg (List.filterMap Response.test?) (sent_afterTear s text count)
      · exact congrArg (List.map (·.test)) (handed_afterTear s text count)

/-- Also on channels that fail every step keeps the pending tests in balance. -/
lemma Move.balanced {step : Step} (h : Move step) (hs : step.before.Balanced) :
    step.after.Balanced := by
  cases h with
  | ruled hrule hcause => exact hrule.balanced hs
  | @asked s _ request result hperform =>
    cases attempt_of_perform hperform with
    | settled heffect hdelivers => exact heffect.balanced hs
    | @torn _ hmessage cause text htext count hopen hnot =>
      have hsent := sent_afterTear s text count
      have hhanded := handed_afterTear s text count
      refine hs.congr (fun hearly => ⟨hearly, hsent⟩) rfl rfl ?_ ?_
      · exact fun test => congrArg (List.countP (asksFor test)) hsent
      · exact fun test => congrArg (List.countP fun entry : TestEntry => entry.test == test) hhanded

/-! ### What holds of the tests at every point -/

namespace Session

/-- The pending tests are in balance, and only tests of the problem were asked for. -/
structure Sensible (s : Session) : Prop extends s.Balanced where
  within : ∀ test ∈ s.requested, 1 ≤ test ∧ test ≤ s.tests

lemma sensible_fresh (health : PerPipe Health) : ({ health } : Session).Sensible where
  toBalanced := balanced_fresh health
  within _ hmem := absurd hmem List.not_mem_nil

/-- The policy was told of no more than it asked for. -/
lemma Balanced.reported_subperm {s : Session} (hs : s.Balanced) :
    s.reported.Subperm s.requested :=
  (List.sublist_append_left _ _).subperm.trans hs.perm.subperm

/-- At most one test is pending, and the policy was told of all others in the order in which it
asked for them. -/
structure IsSingle (s : Session) : Prop where
  order : s.reported ++ s.pending = s.requested
  alone : s.pending.length ≤ 1

lemma isSingle_fresh (health : PerPipe Health) : ({ health } : Session).IsSingle where
  order := rfl
  alone := Nat.zero_le 1

lemma IsSingle.reported_sublist {s : Session} (hs : s.IsSingle) :
    s.reported.Sublist s.requested := by
  rw [← hs.order]
  exact List.sublist_append_left _ _

end Session

/-- Whether a step asks for a test only when no other is pending. -/
def Step.AsksAlone (step : Step) : Prop :=
  step.granted?.bind Response.test? ≠ none → step.before.pending = []

instance (step : Step) : Decidable step.AsksAlone :=
  inferInstanceAs (Decidable (_ → _))

lemma Move.sensible {step : Step} (h : Move step) (hs : step.before.Sensible) :
    step.after.Sensible := by
  refine ⟨h.balanced hs.toBalanced, ?_⟩
  cases h.books with
  | asked hcause hfirst hlast htests hpending hrequested hreported =>
    rw [hrequested, htests]
    intro test hmem
    rcases List.mem_append.mp hmem with hmem | hmem
    · exact hs.within test hmem
    · exact List.mem_singleton.mp hmem ▸ ⟨hfirst, hlast⟩
  | told hmem htests hpending hrequested hreported =>
    rw [hrequested, htests]
    exact hs.within
  | kept htests hpending hrequested hreported =>
    rw [hrequested]
    rcases htests with hearly | htests
    · -- the number of tests is learned before any test can be asked for
      rw [Session.requested, (hs.early hearly).2]
      exact fun _ hmem => absurd hmem List.not_mem_nil
    · exact htests ▸ hs.within

lemma Move.isSingle {step : Step} (h : Move step) (halone : step.AsksAlone)
    (hs : step.before.IsSingle) : step.after.IsSingle := by
  cases h.books with
  | asked hcause hfirst hlast htests hpending hrequested hreported =>
    have hempty := halone (by simp [Step.granted?, hcause, Request.message?, Response.test?])
    have horder := hs.order
    rw [hempty, List.append_nil] at horder
    exact ⟨by rw [hreported, hpending, hrequested, hempty, horder], by simp [hpending, hempty]⟩
  | @told test hmem htests hpending hrequested hreported =>
    -- the test that is told is the only pending one
    obtain ⟨other, hother⟩ := List.length_eq_one_iff.mp
      (le_antisymm hs.alone (List.length_pos_of_mem hmem))
    rw [hother, List.mem_singleton] at hmem
    subst hmem
    rw [hother, List.erase_cons_head] at hpending
    exact ⟨by rw [hreported, hpending, hrequested, ← hs.order, hother, List.append_nil],
      by simp [hpending]⟩
  | kept htests hpending hrequested hreported =>
    exact ⟨by rw [hreported, hpending, hrequested, hs.order], hpending ▸ hs.alone⟩

section

variable {step : Step} {score : UInt32} {full : Bool} {log : JudgeLog} {reply : Reply}

/-- A final message is granted for the stage, the status codes and the channel, whatever tests it
lists. -/
lemma Move.finish_iff (h : Move step)
    (hasked : step.cause = .asked (.finish score full log) reply) :
    reply.result = .ok () ↔ step.before.isOpen = true ∧
      (∀ entry ∈ log.tests, IsSolid entry.statusCode) ∧
      step.before.health.control.Delivers (Response.finish score full log).pieces.length := by
  have hperform : step.before.finish score full log = (reply.result, step.after) :=
    h.perform_eq hasked
  rw [← JudgeLog.validate_eq_ok_iff, ← Session.finish_eq_ok_iff, hperform]

/-- A final message that is not sent leaves the session as it is. -/
lemma Move.refused_finish (h : Move step)
    (hasked : step.cause = .asked (.finish score full log) reply)
    (hnot : ¬(step.before.isOpen = true ∧ ∀ entry ∈ log.tests, IsSolid entry.statusCode)) :
    ∃ fault, reply.result = .error fault ∧ step.after = step.before := by
  rw [← JudgeLog.validate_eq_ok_iff] at hnot
  obtain ⟨fault, hrefused⟩ := Session.finish_of_refused score full hnot
  obtain ⟨hresult, hafter⟩ := Prod.mk.inj ((h.perform_eq hasked).symm.trans hrefused)
  exact ⟨fault, hresult, hafter⟩

/-- A final message that was granted was written whole and flushed. -/
lemma Move.finishes_of_granted (h : Move step)
    (hasked : step.cause = .asked (.finish score full log) reply)
    (hgranted : reply.result = .ok ()) : step.Finishes score full log := by
  obtain ⟨hopen, hcodes, hdelivers⟩ := (h.finish_iff hasked).mp hgranted
  have hperform := h.perform_eq hasked
  rw [Session.perform,
    Session.finish_of_delivers hdelivers hopen (JudgeLog.validate_eq_ok_iff.mpr hcodes)] at hperform
  refine ⟨⟨reply.view, by rw [hasked, ← hgranted]⟩, hdelivers, ?_⟩
  rw [← (Prod.mk.inj hperform).2]
  rfl

end

/-! ### What is listed -/

lemma nodup_of_subperm {tests tests' : List UInt32} (h : tests.Subperm tests')
    (hnodup : tests'.Nodup) : tests.Nodup := by
  obtain ⟨tests'', hperm, hsublist⟩ := h
  exact hperm.nodup_iff.mp (hnodup.sublist hsublist)

/-- A final message whose judge log is valid arrives with the tests that it was sent with. -/
lemma decode_finish {score : UInt32} {full : Bool} {log : JudgeLog} (hlog : log.WellFormed)
    (hvalid : log.validate = .ok ()) :
    ∃ arrived : JudgeLog,
      Transcript.decode (Utf8.encode (Response.finish score full log).render) =
        ⟨[.finish score full arrived], none⟩ ∧ arrived.ids = log.ids := by
  have hread := Transcript.decode_render_append (r := .finish score full log) hlog
    (isToken_of_validate fun score full log heq => by cases heq; exact hvalid) ""
  rw [String.append_empty] at hread
  refine ⟨_, hread, ?_⟩
  simp [JudgeLog.ids, TestEntry.travelled]

section

variable (policy : Scorer σ) (state : σ) (health : PerPipe Health) (input : List UInt8)

lemma sensible_stepsUntil (said : List Heard) :
    ∀ step ∈ stepsUntil policy state { health } said, step.before.Sensible :=
  (invariant_stepsUntil policy state { health } rfl (Session.sensible_fresh health) said
    fun _ _ hmove => hmove.sensible).1

/-- A policy that asks for one test at a time has at most one pending at every point. -/
lemma isSingle_stepsUntil (said : List Heard)
    (halone : ∀ step ∈ stepsUntil policy state { health } said, step.AsksAlone) :
    ∀ step ∈ stepsUntil policy state { health } said, step.before.IsSingle :=
  (invariant_stepsUntil policy state { health } rfl (Session.isSingle_fresh health) said
    fun step hmem hmove => hmove.isSingle (halone step hmem)).1

/-- **A final message lists what the policy lists.** Whatever the policy, the input and the
channels, a final message that is asked for is granted exactly if messages may be sent, no status
code of the judge log is empty or holds a blank, and the message gets through: the tests that it
lists are not looked at. In another stage and with another status code it is refused, and nothing
changes. When it is granted it was written whole, behind everything else, and arrives with the
tests that the policy put down, in its order. If it asked for all of them, they are tests of the
problem. If it put down each result that it was told at most once, and asked for no test twice,
they are distinct. If it put down results in the order in which it was told of them, and asked for
one test at a time, each one greater than those before, they are in ascending order. -/
theorem ids_of_finish {step : Step} {score : UInt32} {full : Bool} {log : JudgeLog} {reply : Reply}
    (hmem : step ∈ stepsUntil policy state { health } (heards input))
    (hasked : step.cause = .asked (.finish score full log) reply) :
    (reply.result = .ok () ↔ step.before.isOpen = true ∧
      (∀ entry ∈ log.tests, IsSolid entry.statusCode) ∧
      step.before.health.control.Delivers (Response.finish score full log).pieces.length) ∧
    (¬(step.before.isOpen = true ∧ ∀ entry ∈ log.tests, IsSolid entry.statusCode) →
      ∃ fault, reply.result = .error fault ∧ step.after = step.before) ∧
    (reply.result = .ok () →
      step.Finishes score full log ∧
      (log.WellFormed → ∃ arrived : JudgeLog,
        Transcript.decode (Utf8.encode (Response.finish score full log).render) =
          ⟨[.finish score full arrived], none⟩ ∧ arrived.ids = log.ids) ∧
      ((∀ id ∈ log.ids, id ∈ step.before.requested) →
        ∀ id ∈ log.ids, 1 ≤ id ∧ id ≤ step.before.tests) ∧
      (log.ids.Subperm step.before.reported → step.before.requested.Nodup → log.ids.Nodup) ∧
      (log.ids.Sublist step.before.reported → step.before.requested.Pairwise (· < ·) →
        (∀ other ∈ stepsUntil policy state { health } (heards input), other.AsksAlone) →
        log.Ascends step.before.tests)) := by
  have hmove := move_stepsUntil policy state { health } rfl (heards input) step hmem
  have hsensible := sensible_stepsUntil policy state health (heards input) step hmem
  have hreported := hsensible.toBalanced.reported_subperm
  refine ⟨hmove.finish_iff hasked, hmove.refused_finish hasked, fun hgranted => ?_⟩
  have hcodes := ((hmove.finish_iff hasked).mp hgranted).2.1
  have hvalid : log.validate = .ok () := JudgeLog.validate_eq_ok_iff.mpr hcodes
  refine ⟨hmove.finishes_of_granted hasked hgranted, fun hlog => decode_finish hlog hvalid,
    fun hrequested id hid => ?_, fun htold hnodup => ?_,
    fun htold hascending halone => ⟨?_, fun id hid => ?_⟩⟩
  · exact hsensible.within id (hrequested id hid)
  · exact nodup_of_subperm (htold.trans hreported) hnodup
  · have hsingle := isSingle_stepsUntil policy state health (heards input) halone step hmem
    exact hascending.sublist (htold.trans hsingle.reported_sublist)
  · exact hsensible.within id (hreported.subset (htold.subset hid))

end

/-- The policy of ICPC contests asks for one test at a time, and lists what it was told. -/
theorem ids_of_finish_icpc :
    let input := Utf8.encode "2\n1 Accepted OK\n2 Rejected WA\n"
    let steps := stepsUntil Icpc.policy Icpc.fresh {} (heards input)
    let log : JudgeLog :=
      { name := "main"
        tests := [⟨1, "OK", .accepted, 1, some 0⟩, ⟨2, "WA", .rejected, 7, some 0⟩] }
    ∃ step ∈ steps, step.Finishes 0 false log ∧ step.before.isOpen = true ∧
      step.before.tests = 2 ∧ step.before.requested = [1, 2] ∧ step.before.reported = [1, 2] ∧
      (∀ other ∈ steps, other.AsksAlone) ∧ log.Ascends 2 := by
  intro input steps log
  have hheards : heards input = [.line (some "2"), .line (some "1 Accepted OK"),
      .line (some "2 Rejected WA"), .ended] := by
    decide +kernel
  obtain ⟨done, step, rest, hsteps, hasked, htests, hrequested, hreported⟩ :
      ∃ done step rest, steps = done ++ step :: rest ∧
        step.cause = .asked (.finish 0 false log) ⟨.ok (), ⟨.finished, 2, 0, {}⟩⟩ ∧
        step.before.tests = 2 ∧ step.before.requested = [1, 2] ∧
        step.before.reported = [1, 2] := by
    simp only [steps, hheards]
    exact ⟨[_, _, _, _, _, _, _, _, _, _], _, [_], rfl, rfl, rfl, rfl, rfl⟩
  have hmem : step ∈ steps := by
    rw [hsteps]
    exact List.mem_append_right done List.mem_cons_self
  have halone : ∀ other ∈ steps, other.AsksAlone := by
    simp only [steps, hheards]
    decide +kernel
  obtain ⟨hiff, -, hsent⟩ :=
    ids_of_finish Icpc.policy Icpc.fresh ⟨.sound, .sound, .sound⟩ input hmem hasked
  obtain ⟨hfinishes, -, -, -, hascending⟩ := hsent rfl
  have hlisted : log.ids.Sublist step.before.reported := by
    rw [hreported]
    exact List.Sublist.refl _
  have hordered : step.before.requested.Pairwise (· < ·) := by
    rw [hrequested]
    decide
  exact ⟨step, hmem, hfinishes, (hiff.mp rfl).1, htests, hrequested, hreported, halone,
    htests ▸ hascending hlisted hordered halone⟩

/-- A policy that asks for two tests at once, and puts down what it is told, and then twice a test
that the problem does not have. -/
def Careless.policy : Scorer JudgeLog where
  start _ log := do
    discard <| Talk.select 1 false
    return (← Talk.select 2 false, log)
  testEnded entry _ log := do
    let log := log.addTest entry
    if log.ids.length < 2 then return (.ok (), log)
    else
      let made : TestEntry := { test := 9, statusCode := "OK", kind := .accepted }
      return (← Talk.finish 0 false ((log.addTest made).addTest made), {})

/-- The final message of such a policy is granted, and lists the tests in the order in which they
were told, one of them twice, and out of range. -/
theorem ids_of_finish_careless :
    let input := Utf8.encode "2\n2 Accepted OK\n1 Accepted OK\n"
    let run := (judge Session.answer Careless.policy {} {} input).1
    let steps := stepsUntil Careless.policy {} {} (heards input)
    run.status = .over (.ok ()) ∧
      run.session.written .control = "RUN 1 0\nRUN 2 0\nDONE 0 0\n4\n2 Accepted OK 0\n" ++
        "1 Accepted OK 0\n9 Accepted OK 0\n9 Accepted OK 0\n0\n" ∧
      ∃ step ∈ steps, ∃ log view,
        step.cause = .asked (.finish 0 false log) ⟨.ok (), view⟩ ∧ step.before.tests = 2 ∧
          log.ids = [2, 1, 9, 9] ∧ ¬log.Ascends step.before.tests := by
  intro input run steps
  have hheards : heards input = [.line (some "2"), .line (some "2 Accepted OK"),
      .line (some "1 Accepted OK"), .ended] := by
    decide +kernel
  have hstatus : run.status = .over (.ok ()) := by
    simp only [run, judge_eq_judgeUntil, hheards]
    rfl
  obtain ⟨done, step, rest, log, hsteps, hgranted, htests, hids⟩ :
      ∃ done step rest log, steps = done ++ step :: rest ∧
        step.cause = .asked (.finish 0 false log) ⟨.ok (), ⟨.finished, 2, 0, {}⟩⟩ ∧
        step.before.tests = 2 ∧ log.ids = [2, 1, 9, 9] := by
    simp only [steps, hheards]
    exact ⟨[_, _, _, _, _, _, _, _, _], _, [_], _, rfl, rfl, rfl, rfl⟩
  have hmem : step ∈ steps := by
    rw [hsteps]
    exact List.mem_append_right done List.mem_cons_self
  refine ⟨hstatus, by decide +kernel, step, hmem, log, _, hgranted, htests, hids, fun h => ?_⟩
  have hascending := h.ascending
  rw [hids] at hascending
  exact absurd hascending (by decide)

/-! ### Policies that list in order -/

/-- Results that come in order are listed in order. -/
lemma InOrder.ascends {results : List Notification} (h : InOrder results) {tests : UInt32}
    (hwithin : results.length ≤ tests.toNat) {log : JudgeLog}
    (hlog : log.ids = results.map (·.test)) : log.Ascends tests := by
  have hnat : log.ids.map UInt32.toNat = List.range' 1 results.length := by
    rw [hlog, List.map_map]
    exact h
  constructor
  · have hsorted : (log.ids.map UInt32.toNat).Pairwise (· < ·) := hnat ▸ List.pairwise_lt_range'
    exact (List.pairwise_map.mp hsorted).imp fun hlt => UInt32.lt_iff_toNat_lt.mpr hlt
  · intro id hid
    have hmem := hnat ▸ List.mem_map_of_mem (f := UInt32.toNat) hid
    rw [List.mem_range'_1] at hmem
    rw [UInt32.le_iff_toNat_le, UInt32.le_iff_toNat_le]
    exact ⟨hmem.1, by omega⟩

section

variable (health : PerPipe Health) (hsound : health.control.IsSound) (input : List UInt8)
  {score : UInt32} {full : Bool} {log : JudgeLog}

include hsound

/-- The policy of ICPC contests lists tests of the problem in ascending order. -/
theorem Icpc.ascends_of_sent
    (hsent : .finish score full log ∈
      (judge Session.answer Icpc.policy Icpc.fresh { health } input).1.session.sent) :
    ∃ tests, Begins (heards input) tests [] ∧ log.Ascends tests := by
  obtain ⟨lines, hlines⟩ : ∃ lines, heards input = lines ++ [.ended] := ⟨_, rfl⟩
  rw [judge_eq_judgeUntil, hlines] at hsent
  rw [hlines]
  by_cases hdecided : ∃ tests more last, Begins (lines ++ [.ended]) tests (more ++ [last]) ∧
      Icpc.Decides tests more last
  · obtain ⟨tests, more, last, hbegins, hdecides⟩ := hdecided
    rw [(Icpc.judgeUntil_of_begins health hsound hbegins hdecides).2] at hsent
    have hlog : Response.finish score full log = Icpc.verdict more last := by
      simpa [Icpc.requests] using hsent
    cases hlog
    refine ⟨tests, hbegins.nil, hdecides.order.ascends ?_ ?_⟩
    · rw [List.length_append]
      exact hdecides.within
    · simp [JudgeLog.ids, Icpc.logOf, Icpc.listed]
  · obtain ⟨-, count, -, -, -, hshort⟩ :=
      Icpc.stopsShort_judgeUntil health hsound lines fun tests more last hbegins hdecides =>
        hdecided ⟨tests, more, last, hbegins, hdecides⟩
    rw [hshort] at hsent
    simp [Icpc.requests] at hsent

/-- The policy of partial credit lists tests of the problem in ascending order. -/
theorem PartialCredit.ascends_of_sent
    (hsent : .finish score full log ∈
      (judge Session.answer PartialCredit.policy 0 { health } input).1.session.sent) :
    ∃ tests, Begins (heards input) tests [] ∧ log.Ascends tests := by
  rw [judge_eq_judgeUntil] at hsent
  rcases PartialCredit.judged_or_uncounted health hsound _ with
    ⟨tests, results, hturn, hjudged⟩ | ⟨-, -, -, -, hnone⟩
  · obtain ⟨hfull, -, hlog⟩ := hjudged.final_iff.mp ⟨hsent, rfl⟩
    cases hlog
    refine ⟨tests, hturn.begins.nil, hturn.order.ascends hfull.le ?_⟩
    simp [JudgeLog.ids, PartialCredit.logOf, PartialCredit.listed]
  · exact absurd (hnone ▸ hsent) List.not_mem_nil

end

end Valuer

end Jury
