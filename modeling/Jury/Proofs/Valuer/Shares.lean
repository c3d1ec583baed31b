import Jury.Proofs.Valuer.ControlStream
import Jury.Valuer.PartialCredit

/-!
# Shares of accepted tests

What a session of the policy of partial credit writes, as a function of the results: each request
is followed by the share of accepted tests, and the final message gives the last share (`course`).
Shares never fall and never exceed 100. The policy computes them on machine words, exactly as long
as fewer tests were accepted than there are (`isExact_of_lt`).
-/

namespace Jury.Valuer.PartialCredit

open Jury.Control

/-! ### What is written -/

/-- How many of these results are accepted. -/
def passed (results : List Notification) : Nat :=
  results.countP (·.kind.isPassed)

/-- The share of accepted results in percent of all tests, rounded down. -/
def share (tests : UInt32) (results : List Notification) : Nat :=
  100 * passed results / tests.toNat

/-- The entry of a result in the judge log. -/
def listed (result : Notification) : TestEntry :=
  { test := result.test
    statusCode := result.statusCode
    kind := result.kind
    parts := PartKind.testData
    score := some (if result.kind.isPassed then 1 else 0) }

/-- The judge log of these results. -/
def logOf (results : List Notification) : JudgeLog :=
  { name := "main", tests := results.map listed }

/-- The requests for these tests, each followed by the share after its result. -/
def scored (tests : UInt32) (results : List Notification) : List Response :=
  (List.range results.length).flatMap fun k =>
    [.test (UInt32.ofNat (k + 1)) true,
      .liveScore (UInt32.ofNat (share tests (results.take (k + 1))))]

/-- The final message after the results of all tests. -/
def verdict (tests : UInt32) (results : List Notification) : Response :=
  .finish (UInt32.ofNat (share tests results)) (decide (passed results = tests.toNat))
    (logOf results)

/-- The messages of a session that is told these results of all tests. -/
def course (tests : UInt32) (results : List Notification) : List Response :=
  scored tests results ++ [verdict tests results]

lemma logged_entry (result : Notification) : logged result.entry = listed result := by
  have hparts : (0 : UInt32) ||| PartKind.testData = PartKind.testData := by decide
  rw [logged, listed, Notification.entry, hparts]

lemma addTest_logOf (results : List Notification) (result : Notification) :
    (logOf results).addTest (logged result.entry) = logOf (results ++ [result]) := by
  rw [logged_entry, JudgeLog.addTest, logOf, logOf, List.map_append]
  rfl

lemma validate_logOf_iff (results : List Notification) :
    (logOf results).validate = .ok () ↔ CodesPass results :=
  validate_map_iff (fun _ => rfl) "main" results

lemma scored_concat (tests : UInt32) (results : List Notification) (result : Notification) :
    scored tests (results ++ [result]) =
      scored tests results ++ [.test (UInt32.ofNat (results.length + 1)) true,
        .liveScore (UInt32.ofNat (share tests (results ++ [result])))] := by
  have hlength : (results ++ [result]).length = results.length + 1 := List.length_append
  rw [scored, scored, hlength, List.range_succ, List.flatMap_append, List.flatMap_singleton,
    ← hlength, List.take_length]
  congr 1
  refine List.flatMap_congr fun k hk => ?_
  rw [List.take_append_of_le_length (List.mem_range.mp hk)]

/-! ### Shares -/

lemma passed_concat (results : List Notification) (result : Notification) :
    passed (results ++ [result]) = passed results + if result.kind.isPassed then 1 else 0 := by
  simp [passed, List.countP_append, List.countP_singleton]

lemma passed_le_length (results : List Notification) : passed results ≤ results.length :=
  List.countP_le_length

section

variable {tests : UInt32} {results more : List Notification}

lemma share_mono (h : results <+: more) : share tests results ≤ share tests more :=
  Nat.div_le_div_right (Nat.mul_le_mul_left 100 h.sublist.countP_le)

lemma share_le (h : passed results ≤ tests.toNat) : share tests results ≤ 100 := by
  apply Nat.div_le_of_le_mul
  rw [Nat.mul_comm tests.toNat]
  exact Nat.mul_le_mul_left 100 h

lemma share_eq_iff (htests : 0 < tests.toNat) (h : passed results ≤ tests.toNat) :
    share tests results = 100 ↔ passed results = tests.toNat := by
  constructor
  · intro heq
    have hmul : 100 * tests.toNat ≤ 100 * passed results := by
      rw [← Nat.le_div_iff_mul_le htests]
      exact heq.ge
    omega
  · intro heq
    rw [share, heq, Nat.mul_div_cancel 100 htests]

lemma toNat_share (h : passed results ≤ tests.toNat) :
    (UInt32.ofNat (share tests results)).toNat = share tests results :=
  UInt32.toNat_ofNat_of_lt' (lt_of_le_of_lt (share_le h) (by decide))

end

/-! ### The arithmetic of machine words -/

/-- The number of accepted tests after this one, by the policy's count. -/
def counted (entry : TestEntry) (accepted : UInt32) : UInt32 :=
  if entry.kind.isPassed then accepted + 1 else accepted

/-- Whether all operations on machine words are exact when the policy is told of this entry: none
wraps around, cuts off bits or divides by zero. -/
structure IsExact (entry : TestEntry) (tests accepted : UInt32) : Prop where
  increment : entry.kind.isPassed = true → (accepted + 1).toNat = accepted.toNat + 1
  product : ((counted entry accepted).toUInt64 * 100).toNat = (counted entry accepted).toNat * 100
  divisor : tests.toUInt64 ≠ 0
  narrowing : (score (counted entry accepted) tests).toNat =
    ((counted entry accepted).toUInt64 * 100 / tests.toUInt64).toNat
  successor : entry.test < tests → (entry.test + 1).toNat = entry.test.toNat + 1

section

variable {entry : TestEntry} {tests accepted : UInt32}

lemma toNat_product (accepted : UInt32) :
    (accepted.toUInt64 * 100).toNat = accepted.toNat * 100 := by
  have hlt := accepted.toNat_lt
  rw [UInt64.toNat_mul, UInt32.toNat_toUInt64]
  exact Nat.mod_eq_of_lt (by simp; omega)

lemma toNat_quotient (accepted tests : UInt32) :
    (accepted.toUInt64 * 100 / tests.toUInt64).toNat = 100 * accepted.toNat / tests.toNat := by
  rw [UInt64.toNat_div, toNat_product, UInt32.toNat_toUInt64, Nat.mul_comm]

lemma toNat_score (h : accepted.toNat ≤ tests.toNat) :
    (score accepted tests).toNat = 100 * accepted.toNat / tests.toNat := by
  have hle : 100 * accepted.toNat / tests.toNat ≤ 100 := by
    apply Nat.div_le_of_le_mul
    rw [Nat.mul_comm tests.toNat]
    exact Nat.mul_le_mul_left 100 h
  rw [score, UInt64.toNat_toUInt32, toNat_quotient]
  exact Nat.mod_eq_of_lt (by omega)

lemma toNat_succ_of_lt {n m : UInt32} (h : n < m) : (n + 1).toNat = n.toNat + 1 := by
  have hlt := UInt32.lt_iff_toNat_lt.mp h
  have hm := m.toNat_lt
  rw [UInt32.toNat_add]
  exact Nat.mod_eq_of_lt (by simp; omega)

lemma toNat_counted (h : accepted < tests) :
    (counted entry accepted).toNat = accepted.toNat + if entry.kind.isPassed then 1 else 0 := by
  rw [counted]
  split
  · exact toNat_succ_of_lt h
  · rfl

lemma toNat_counted_le (h : accepted < tests) : (counted entry accepted).toNat ≤ tests.toNat := by
  have hlt := UInt32.lt_iff_toNat_lt.mp h
  rw [toNat_counted h]
  split <;> omega

lemma isExact_of_lt (entry : TestEntry) (h : accepted < tests) : IsExact entry tests accepted where
  increment _ := toNat_succ_of_lt h
  product := toNat_product _
  divisor := by
    intro hzero
    have hnat := congrArg UInt64.toNat hzero
    rw [UInt32.toNat_toUInt64] at hnat
    exact Nat.not_lt_zero _ (hnat ▸ UInt32.lt_iff_toNat_lt.mp h)
  narrowing := by rw [toNat_score (toNat_counted_le h), toNat_quotient]
  successor := toNat_succ_of_lt

end

/-! ### The scores of a session -/

/-- The score that a message carries. -/
def score? : Response → Option UInt32
  | .test _ _ => none
  | .liveScore score => some score
  | .finish score _ _ => some score

/-- Scores never fall and never exceed 100, and a final score is 100 just for full marks. -/
structure Fair (sent : List Response) : Prop where
  sorted : (sent.filterMap score?).Pairwise (· ≤ ·)
  bounded : ∀ score ∈ sent.filterMap score?, score ≤ 100
  full_iff : ∀ score full log, .finish score full log ∈ sent → (score = 100 ↔ full = true)

section

variable {tests : UInt32} {results more : List Notification}

lemma filterMap_scored (tests : UInt32) (results : List Notification) :
    (scored tests results).filterMap score? =
      (List.range results.length).map fun k =>
        UInt32.ofNat (share tests (results.take (k + 1))) := by
  rw [scored, List.filterMap_flatMap, List.map_eq_flatMap]
  rfl

lemma filterMap_course (tests : UInt32) (results : List Notification) :
    (course tests results).filterMap score? =
      (List.range (results.length + 1)).map fun k =>
        UInt32.ofNat (share tests (results.take (k + 1))) := by
  rw [course, List.filterMap_append, filterMap_scored, List.range_succ, List.map_append]
  congr 1
  rw [List.map_singleton, List.take_of_length_le (Nat.le_succ _)]
  rfl

lemma not_mem_scored {response : Response} (hfinal : isFinal response = true) :
    response ∉ scored tests results := by
  simp only [scored, List.mem_flatMap, List.mem_cons, List.not_mem_nil, or_false]
  rintro ⟨k, -, rfl | rfl⟩
  · cases hfinal
  · cases hfinal

lemma sorted_course (hwithin : results.length ≤ tests.toNat) :
    ((course tests results).filterMap score?).Pairwise (· ≤ ·) := by
  rw [filterMap_course, List.pairwise_map]
  refine List.pairwise_lt_range.imp fun {i j} hlt => ?_
  have hpassed : ∀ k, passed (results.take k) ≤ tests.toNat := fun k =>
    (passed_le_length _).trans ((List.length_take_le' k results).trans hwithin)
  rw [UInt32.le_iff_toNat_le, toNat_share (hpassed _), toNat_share (hpassed _)]
  exact share_mono (List.take_prefix_take_left (by omega))

lemma le_of_mem_course (hwithin : results.length ≤ tests.toNat) {score : UInt32}
    (hmem : score ∈ (course tests results).filterMap score?) : score ≤ 100 := by
  rw [filterMap_course] at hmem
  obtain ⟨k, -, rfl⟩ := List.mem_map.mp hmem
  have hpassed : passed (results.take (k + 1)) ≤ tests.toNat :=
    (passed_le_length _).trans ((List.length_take_le' _ results).trans hwithin)
  rw [UInt32.le_iff_toNat_le, toNat_share hpassed]
  exact share_le hpassed

lemma fair_nil : Fair [] where
  sorted := List.Pairwise.nil
  bounded _ hmem := absurd hmem List.not_mem_nil
  full_iff _ _ _ hmem := absurd hmem List.not_mem_nil

lemma scored_isPrefix (h : results <+: more) : scored tests results <+: scored tests more := by
  obtain ⟨rest, rfl⟩ := h
  induction rest generalizing results with
  | nil =>
    have hnil : results ++ [] = results := List.append_nil results
    exact hnil.symm ▸ List.prefix_rfl
  | cons result rest ih =>
    have hnext : scored tests results <+: scored tests (results ++ [result]) := by
      rw [scored_concat]
      exact List.prefix_append _ _
    rw [List.append_cons]
    exact hnext.trans ih

end

end Jury.Valuer.PartialCredit
