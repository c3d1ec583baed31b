import Jury.Proofs.Valuer.Icpc
import Jury.Proofs.Valuer.PartialCredit

/-!
# Status codes on their way through a judging

The status code of a result is one that holds no separator, but the judge log may only be sent with
status codes that hold no blank of any kind. So a judging in which the results of all tests come in
order ends well exactly if the codes that were heeded are solid text (`finished_iff_isSolid`).
-/

namespace Jury.Valuer

open Jury.Control
open Jury.Text (IsToken IsSolid)

variable {said : List Heard} {tests : UInt32} {results more : List Notification}
variable {last : Notification}

/-! ### The codes of results -/

lemma isToken_of_reports {heard : Heard} {result : Notification} (h : Reports heard result) :
    IsToken result.statusCode := by
  obtain ⟨line, -, hparse⟩ := h
  rw [Notification.parse] at hparse
  split at hparse
  · next test kind code hfields =>
    obtain ⟨_, _, hparse⟩ := Except.bind_eq_ok_iff.mp hparse
    obtain ⟨_, _, hparse⟩ := Except.bind_eq_ok_iff.mp hparse
    cases hparse
    have hmem : code ∈ Text.fields line := by simp [hfields]
    exact Text.isToken_of_mem_fields hmem
  · cases hparse

/-- The status code of every result that is told is a token. -/
lemma Tells.isToken (h : Tells said results) : ∀ result ∈ results, IsToken result.statusCode := by
  induction results generalizing said with
  | nil => exact fun _ hmem => absurd hmem List.not_mem_nil
  | cons result results ih =>
    cases said with
    | nil => exact h.elim
    | cons heard said =>
      exact List.forall_mem_cons.mpr ⟨isToken_of_reports h.1, ih h.2⟩

lemma codesPass_iff : CodesPass results ↔ ∀ result ∈ results, IsSolid result.statusCode := by
  simp only [CodesPass, checkStatusCode_eq_ok_iff]

/-- Judging that ends well leaves the session finished. -/
lemma stage_of_over {σ : Type} (policy : Scorer σ) (state : σ) {health : PerPipe Health}
    (hsound : health.control.IsSound)
    (h : (judgeUntil policy state { health } said).status = .over (.ok ())) :
    (judgeUntil policy state { health } said).session.stage = .finished :=
  (ready_judgeUntil policy state { health } rfl hsound said).ended h

/-! ### The results that the policy of ICPC contests heeds -/

namespace Icpc

/-- The results up to the first failure. -/
def heeded : List Notification → List Notification
  | [] => []
  | result :: results => if result.kind.isPassed then result :: heeded results else [result]

lemma heeded_append {rest : List Notification}
    (haccepted : ∀ result ∈ more, result.kind = .accepted)
    (hend : last.kind.isPassed = false ∨ rest = []) :
    heeded (more ++ last :: rest) = more ++ [last] := by
  induction more with
  | nil =>
    rcases hend with hfailed | rfl
    · simp [heeded, hfailed]
    · simp [heeded]
  | cons result more ih =>
    rw [List.forall_mem_cons] at haccepted
    rw [List.cons_append, heeded, if_pos (isPassed_iff.mpr haccepted.1), ih haccepted.2]
    rfl

lemma exists_heeded (hne : results ≠ []) :
    ∃ more last rest, results = more ++ last :: rest ∧
      (∀ result ∈ more, result.kind = .accepted) ∧ (last.kind.isPassed = false ∨ rest = []) := by
  induction results with
  | nil => exact absurd rfl hne
  | cons result results ih =>
    cases hkind : result.kind.isPassed with
    | false => exact ⟨[], result, results, rfl, by simp, .inl hkind⟩
    | true =>
      by_cases hnil : results = []
      · exact ⟨[], result, results, rfl, by simp, .inr hnil⟩
      · obtain ⟨more, last, rest, rfl, haccepted, hend⟩ := ih hnil
        refine ⟨result :: more, last, rest, rfl, ?_, hend⟩
        exact List.forall_mem_cons.mpr ⟨isPassed_iff.mp hkind, haccepted⟩

/-- With the results of all tests told, judging is decided just if the heeded codes pass. -/
lemma exists_decides_iff (hbegins : Begins said tests results) (horder : InOrder results)
    (hfull : results.length = tests.toNat) :
    (∃ tests' more last, Begins said tests' (more ++ [last]) ∧ Decides tests' more last) ↔
      CodesPass (heeded results) := by
  constructor
  · rintro ⟨tests', more, last, hbegins', hdecides⟩
    obtain rfl := hbegins.tests_unique hbegins'
    have hlength : (more ++ [last]).length ≤ results.length := by
      rw [List.length_append, List.length_singleton, hfull]
      exact hdecides.within
    have hstart : more ++ [last] <+: results := by
      rcases hbegins.comparable hbegins' with h | h
      · rw [h.eq_of_length_le hlength]
      · exact h
    obtain ⟨rest, rfl⟩ := hstart
    rw [List.append_assoc, List.singleton_append, heeded_append hdecides.accepted]
    · exact hdecides.codes
    · refine hdecides.ends.imp_right fun hlast => ?_
      simp only [List.length_append, List.length_singleton] at hfull
      exact List.length_eq_zero_iff.mp (by omega)
  · intro hcodes
    have hne : results ≠ [] := by
      rintro rfl
      exact absurd hfull.symm hbegins.pos.ne'
    obtain ⟨more, last, rest, rfl, haccepted, hend⟩ := exists_heeded hne
    rw [heeded_append haccepted hend] at hcodes
    rw [List.append_cons] at hbegins horder
    simp only [List.length_append, List.length_cons] at hfull
    refine ⟨tests, more, last, hbegins.of_append, horder.of_append, by omega, haccepted, ?_, hcodes⟩
    refine hend.imp_right fun hnil => ?_
    rw [hnil] at hfull
    exact hfull

/-- With the results of all tests told, the policy ends judging well just if the heeded codes
pass. -/
lemma over_iff (health : PerPipe Health) (hsound : health.control.IsSound) {input : List UInt8}
    (hbegins : Begins (heards input) tests results) (horder : InOrder results)
    (hfull : results.length = tests.toNat) :
    (judgeUntil policy fresh { health } (heards input)).status = .over (.ok ()) ↔
      CodesPass (heeded results) := by
  rw [← exists_decides_iff hbegins horder hfull]
  constructor
  · intro hover
    by_contra hnone
    have hshort := stopsShort_judgeUntil health hsound _ fun tests' more last hbegins' hdecides =>
      hnone ⟨tests', more, last, hbegins', hdecides⟩
    obtain ⟨fault, -, -, -, hstatus, -⟩ := hshort
    cases hover.symm.trans hstatus
  · rintro ⟨tests', more, last, hbegins', hdecides⟩
    exact (judgeUntil_of_begins health hsound hbegins' hdecides).1

end Icpc

/-- With the results of all tests told, the policy of partial credit ends judging well just if all
codes pass. -/
lemma PartialCredit.over_iff (health : PerPipe Health) (hsound : health.control.IsSound)
    {input : List UInt8} (hbegins : Begins (heards input) tests results)
    (horder : InOrder results) (hfull : results.length = tests.toNat) :
    (judgeUntil policy 0 { health } (heards input)).status = .over (.ok ()) ↔
      CodesPass results := by
  obtain ⟨tests', results', hturn, hjudged⟩ :=
    (judged_or_uncounted health hsound _).resolve_right fun h => h.1 tests results hbegins
  obtain rfl := hbegins.tests_unique hturn.begins
  obtain rfl := hturn.unique (inTurn_of_full hbegins horder hfull)
  rw [heards]
  cases hjudged with
  | incomplete hcount => exact absurd hcount hfull.not_lt
  | refused _ hcodes _ hstatus =>
    refine iff_of_false (fun hover => ?_) hcodes
    cases hover.symm.trans hstatus
  | complete _ hcodes hstatus => exact iff_of_true hstatus hcodes

/-! ### Judgings that end well -/

/-- **Status codes that let a judging end.** When the number of tests is heard and then the results
of all of them in order, their status codes are tokens. On a sound control channel the policy of
ICPC contests ends judging well, with the session finished, exactly if all codes up to the first
failure are solid text, and the policy of partial credit exactly if all codes are. -/
theorem finished_iff_isSolid (health : PerPipe Health) (hsound : health.control.IsSound)
    {input : List UInt8} (hbegins : Begins (heards input) tests results)
    (horder : InOrder results) (hfull : results.length = tests.toNat) :
    let icpc := (judge Session.answer Icpc.policy Icpc.fresh { health } input).1
    let partialCredit := (judge Session.answer PartialCredit.policy 0 { health } input).1
    (∀ result ∈ results, IsToken result.statusCode) ∧
      (icpc.status = .over (.ok ()) ∧ icpc.session.stage = .finished ↔
        ∀ result ∈ Icpc.heeded results, IsSolid result.statusCode) ∧
      (partialCredit.status = .over (.ok ()) ∧ partialCredit.session.stage = .finished ↔
        ∀ result ∈ results, IsSolid result.statusCode) := by
  intro icpc partialCredit
  have hicpc : icpc = judgeUntil Icpc.policy Icpc.fresh { health } (heards input) :=
    judge_eq_judgeUntil _ _ _ input
  have hpartial : partialCredit = judgeUntil PartialCredit.policy 0 { health } (heards input) :=
    judge_eq_judgeUntil _ _ _ input
  rw [← codesPass_iff, ← codesPass_iff, hicpc, hpartial]
  refine ⟨?_, ?_, ?_⟩
  · obtain ⟨first, rest, -, -, htells⟩ := hbegins
    exact htells.isToken
  · rw [and_iff_left_of_imp (stage_of_over Icpc.policy Icpc.fresh hsound)]
    exact Icpc.over_iff health hsound hbegins horder hfull
  · rw [and_iff_left_of_imp (stage_of_over PartialCredit.policy 0 hsound)]
    exact PartialCredit.over_iff health hsound hbegins horder hfull

/-- A code after the first failure, which holds a no-break space, keeps only the policy of partial
credit from ending well. -/
theorem finished_iff_isSolid_late :
    let input := Utf8.encode "2\n1 Rejected WA\n2 Accepted O\u00a0K\n"
    let results : List Notification := [⟨1, .rejected, "WA"⟩, ⟨2, .accepted, "O\u00a0K"⟩]
    let icpc := (judge Session.answer Icpc.policy Icpc.fresh {} input).1
    let partialCredit := (judge Session.answer PartialCredit.policy 0 {} input).1
    Begins (heards input) 2 results ∧ InOrder results ∧ results.length = (2 : UInt32).toNat ∧
      (icpc.status = .over (.ok ()) ∧ icpc.session.stage = .finished) ∧
      ¬(partialCredit.status = .over (.ok ()) ∧ partialCredit.session.stage = .finished) := by
  intro input results icpc partialCredit
  have hheards : heards input = [.line (some "2"), .line (some "1 Rejected WA"),
      .line (some "2 Accepted O\u00a0K"), .ended] := by
    decide +kernel
  have hbegins : Begins (heards input) 2 results := by
    refine ⟨.line (some "2"), _, hheards, ⟨_, rfl, by decide +kernel, by decide⟩, ?_⟩
    exact ⟨⟨_, rfl, by decide +kernel⟩, ⟨_, rfl, by decide +kernel⟩, tells_nil _⟩
  obtain ⟨-, hicpc, hpartial⟩ :=
    finished_iff_isSolid ⟨.sound, .sound, .sound⟩ (fun _ _ => rfl) hbegins rfl rfl
  refine ⟨hbegins, rfl, rfl, hicpc.mpr (by decide), ?_⟩
  exact hpartial.not.mpr (by decide)

/-- A status code with a no-break space is accepted from the harness and fails the end of judging
with either policy. -/
theorem not_finished_noBreakSpace :
    let input := Utf8.encode "1\n1 Accepted A\u00a0B\n"
    let results : List Notification := [⟨1, .accepted, "A\u00a0B"⟩]
    let complaint : Fault := .protocol (.statusCode "A\u00a0B")
    Begins (heards input) 1 results ∧ InOrder results ∧
      results.length = (1 : UInt32).toNat ∧
      (judge Session.answer Icpc.policy Icpc.fresh {} input).1.status =
        .over (.error complaint) ∧
      (judge Session.answer PartialCredit.policy 0 {} input).1.status =
        .over (.error complaint) := by
  intro input results complaint
  have hheards : heards input = [.line (some "1"), .line (some "1 Accepted A\u00a0B"),
      .ended] := by
    decide +kernel
  have hbegins : Begins (heards input) 1 results := by
    refine ⟨.line (some "1"), _, hheards, ⟨_, rfl, by decide +kernel, by decide⟩, ?_⟩
    exact ⟨⟨_, rfl, by decide +kernel⟩, tells_nil _⟩
  refine ⟨hbegins, rfl, rfl, ?_, ?_⟩
  · rfl
  · rfl

end Jury.Valuer
