import Jury.Proofs.Control.RoundTrip
import Jury.Valuer.Run

/-!
# What a valuer hears

What the harness says by its lines: the number of tests, and then results. `Begins` says that the
lines begin with a number of tests and certain results; anything else is a fault of what was read.
-/

namespace Jury.Valuer

open Jury.Control

/-- What the harness says by a byte string: its lines, and that there are no more. -/
def heards (input : List UInt8) : List Heard :=
  (Line.all input).map (fun line => .line line.text) ++ [.ended]

/-- Whether a number of tests is heard. -/
def Counts (heard : Heard) (tests : UInt32) : Prop :=
  ∃ line, heard = .line (some line) ∧ Text.word? line = some tests ∧ tests ≠ 0

/-- Whether the result of a test is heard. -/
def Reports (heard : Heard) (result : Notification) : Prop :=
  ∃ line, heard = .line (some line) ∧ Notification.parse line = .ok result

lemma Counts.unique {heard : Heard} {tests tests' : UInt32} (h : Counts heard tests)
    (h' : Counts heard tests') : tests = tests' := by
  obtain ⟨line, rfl, hword, -⟩ := h
  obtain ⟨line', heq, hword', -⟩ := h'
  cases heq
  exact Option.some.inj (hword.symm.trans hword')

lemma Reports.unique {heard : Heard} {result result' : Notification} (h : Reports heard result)
    (h' : Reports heard result') : result = result' := by
  obtain ⟨line, rfl, hparse⟩ := h
  obtain ⟨line', heq, hparse'⟩ := h'
  cases heq
  exact Except.ok.inj (hparse.symm.trans hparse')

lemma Counts.pos {heard : Heard} {tests : UInt32} (h : Counts heard tests) :
    0 < tests.toNat := by
  obtain ⟨-, -, -, hne⟩ := h
  exact Nat.pos_of_ne_zero fun hzero => hne (UInt32.toNat_inj.mp hzero)

lemma not_counts_ended (tests : UInt32) : ¬Counts .ended tests := by
  rintro ⟨line, heq, -⟩
  cases heq

lemma not_reports_ended (result : Notification) : ¬Reports .ended result := by
  rintro ⟨line, heq, -⟩
  cases heq

/-- Whether what is said begins with these results. -/
def Tells : List Heard → List Notification → Prop
  | _, [] => True
  | [], _ :: _ => False
  | heard :: said, result :: results => Reports heard result ∧ Tells said results

lemma tells_nil (said : List Heard) : Tells said [] := by
  cases said <;> trivial

/-- Whether what is said begins with the number of tests and these results. -/
def Begins (said : List Heard) (tests : UInt32) (results : List Notification) : Prop :=
  ∃ first rest, said = first :: rest ∧ Counts first tests ∧ Tells rest results

lemma Begins.ne_zero {said : List Heard} {tests : UInt32} {results : List Notification}
    (h : Begins said tests results) : tests ≠ 0 := by
  obtain ⟨first, rest, -, ⟨line, -, -, hne⟩, -⟩ := h
  exact hne

lemma not_begins_of_uncounted {first : Heard} (hcount : ∀ tests, ¬Counts first tests)
    (said : List Heard) (tests : UInt32) (results : List Notification) :
    ¬Begins (first :: said) tests results := by
  rintro ⟨first', rest, heq, hcount', -⟩
  cases heq
  exact hcount tests hcount'

section

variable {said : List Heard} {tests : UInt32} {results results' more : List Notification}

/-- Of two lists of results that what is said begins with, one begins with the other. -/
lemma Tells.comparable (h : Tells said results) (h' : Tells said results') :
    results <+: results' ∨ results' <+: results := by
  induction said generalizing results results' with
  | nil =>
    cases results with
    | nil => exact .inl List.nil_prefix
    | cons result results => exact h.elim
  | cons heard said ih =>
    cases results with
    | nil => exact .inl List.nil_prefix
    | cons result results =>
      cases results' with
      | nil => exact .inr List.nil_prefix
      | cons result' results' =>
        rw [h.1.unique h'.1, List.prefix_cons_inj, List.prefix_cons_inj]
        exact ih h.2 h'.2

lemma Tells.of_append (h : Tells said (results ++ more)) : Tells said results := by
  induction results generalizing said with
  | nil => exact tells_nil said
  | cons result results ih =>
    cases said with
    | nil => exact h.elim
    | cons heard said => exact ⟨h.1, ih h.2⟩

lemma Begins.of_append (h : Begins said tests (results ++ more)) : Begins said tests results := by
  obtain ⟨first, rest, heq, hcount, htells⟩ := h
  exact ⟨first, rest, heq, hcount, htells.of_append⟩

lemma Begins.nil (h : Begins said tests results) : Begins said tests [] := by
  obtain ⟨first, rest, heq, hcount, -⟩ := h
  exact ⟨first, rest, heq, hcount, tells_nil rest⟩

lemma Begins.pos (h : Begins said tests results) : 0 < tests.toNat := by
  obtain ⟨first, rest, -, hcount, -⟩ := h
  exact hcount.pos

lemma Begins.tests_unique {tests' : UInt32} (h : Begins said tests results)
    (h' : Begins said tests' results') : tests = tests' := by
  obtain ⟨first, rest, rfl, hcount, -⟩ := h
  obtain ⟨first', rest', heq, hcount', -⟩ := h'
  cases heq
  exact hcount.unique hcount'

lemma Begins.comparable (h : Begins said tests results) (h' : Begins said tests results') :
    results <+: results' ∨ results' <+: results := by
  obtain ⟨first, rest, rfl, -, htells⟩ := h
  obtain ⟨first', rest', heq, -, htells'⟩ := h'
  cases heq
  exact htells.comparable htells'

end

/-! ### Results in order -/

/-- Whether results are those of tests 1, 2, and so on. -/
def InOrder (results : List Notification) : Prop :=
  results.map (·.test.toNat) = List.range' 1 results.length

lemma InOrder.concat_iff {results : List Notification} {result : Notification} :
    InOrder (results ++ [result]) ↔
      InOrder results ∧ result.test.toNat = results.length + 1 := by
  rw [InOrder, InOrder, List.map_append, List.length_append, List.length_singleton,
    List.range'_1_concat, Nat.add_comm 1 results.length]
  constructor
  · intro h
    obtain ⟨hresults, hresult⟩ := List.append_inj h (by simp)
    exact ⟨hresults, (List.cons.inj hresult).1⟩
  · rintro ⟨hresults, hresult⟩
    rw [hresults, List.map_singleton, hresult]

lemma InOrder.of_append {results more : List Notification} (h : InOrder (results ++ more)) :
    InOrder results := by
  rw [InOrder, List.map_append, List.length_append, ← List.range'_append_1] at h
  exact (List.append_inj h (by simp)).1

/-- Whether every status code can travel. -/
def CodesPass (results : List Notification) : Prop :=
  ∀ result ∈ results, checkStatusCode result.statusCode = .ok ()

/-- A judge log of results may be sent if every status code can travel. -/
lemma validate_map_iff {entry : Notification → TestEntry}
    (hentry : ∀ result, (entry result).statusCode = result.statusCode) (name : String)
    (results : List Notification) :
    ({ name, tests := results.map entry } : JudgeLog).validate = .ok () ↔ CodesPass results := by
  rw [JudgeLog.validate, List.forM_eq_ok_iff, CodesPass]
  simp [hentry]

/-! ### Faults of what was read -/

/-- A fault of what was read: of the channel, or of the protocol. -/
def IsReadFault : Fault → Prop
  | .io _ => True
  | .protocol _ => True
  | _ => False

lemma isReadFault_of_wordField {what item : String} {fault : Fault}
    (h : wordField what item = .error fault) : IsReadFault fault := by
  rw [wordField, numberField] at h
  cases hn : Text.unsigned? UInt32.size (Text.trim item) with
  | none =>
    rw [hn] at h
    cases h
    trivial
  | some n =>
    rw [hn] at h
    cases h

lemma isReadFault_of_kindField {item : String} {fault : Fault}
    (h : kindField item = .error fault) : IsReadFault fault := by
  rw [kindField] at h
  cases hk : StatusKind.ofName? item with
  | none =>
    rw [hk] at h
    cases h
    trivial
  | some kind =>
    rw [hk] at h
    cases h

/-- A line that is not a result is at fault itself. -/
lemma isReadFault_of_parse {line : String} {fault : Fault}
    (h : Notification.parse line = .error fault) : IsReadFault fault := by
  rw [Notification.parse] at h
  split at h
  · rcases Except.bind_eq_error_iff.mp h with htest | ⟨test, -, h⟩
    · exact isReadFault_of_wordField htest
    · rcases Except.bind_eq_error_iff.mp h with hkind | ⟨kind, -, h⟩
      · exact isReadFault_of_kindField hkind
      · cases h
  · cases h
    trivial

lemma isReadFault_of_checkStatusCode {code : String} {fault : Fault}
    (h : checkStatusCode code = .error fault) : IsReadFault fault := by
  rw [checkStatusCode] at h
  split_ifs at h
  cases h
  trivial

lemma isReadFault_of_validate {log : JudgeLog} {fault : Fault}
    (h : log.validate = .error fault) : IsReadFault fault := by
  obtain ⟨name, tests, subtasks⟩ := log
  change tests.forM (fun entry => checkStatusCode entry.statusCode) = .error fault at h
  induction tests with
  | nil => cases h
  | cons entry tests ih =>
    rcases Except.bind_eq_error_iff.mp h with hcode | ⟨-, -, hrest⟩
    · exact isReadFault_of_checkStatusCode hcode
    · exact ih hrest

end Jury.Valuer
