import Mathlib.Data.List.Basic
import Mathlib.Data.List.TakeWhile
import Mathlib.Tactic.Common
import Jury.Verdict

/-!
# What a verdict file may hold

A text is a verdict file when just one of its lines is not blank and that line gives an outcome.
Otherwise one line decides what is reported: the first line that is not blank, if it gives no
outcome, and else the second (`parse_eq_iff`).
-/

namespace Jury

namespace Text

/-! ### Splitting at the first `=` -/

/-- Whether a line has these two sides of its first `=`. -/
def Splits (line key value : String) : Prop :=
  line = key ++ "=" ++ value ∧ '=' ∉ key.toList

lemma splitAtEquals?_eq_none_iff {line : String} :
    splitAtEquals? line = none ↔ '=' ∉ line.toList := by
  have hall : line.toList.dropWhile (· != '=') = [] ↔ '=' ∉ line.toList := by
    rw [List.dropWhile_eq_nil_iff]
    constructor
    · intro h hmem
      simpa using h '=' hmem
    · intro h c hc
      rw [bne_iff_ne]
      rintro rfl
      exact h hc
  rw [← hall, splitAtEquals?]
  cases line.toList.dropWhile (· != '=') <;> simp

lemma splitAtEquals?_eq_some_iff {line key value : String} :
    splitAtEquals? line = some (key, value) ↔ Splits line key value := by
  constructor
  · intro h
    have hparts := List.takeWhile_append_dropWhile (p := (· != '=')) (l := line.toList)
    rw [splitAtEquals?] at h
    cases hdrop : line.toList.dropWhile (· != '=') with
    | nil =>
      rw [hdrop] at h
      cases h
    | cons c cs =>
      rw [hdrop] at h hparts
      cases h
      have hc : c = '=' := by
        have hhead := List.head_dropWhile_not (· != '=') (l := line.toList) (by simp [hdrop])
        simpa [hdrop] using hhead
      constructor
      · apply String.toList_injective
        calc line.toList = line.toList.takeWhile (· != '=') ++ c :: cs := hparts.symm
          _ = _ := by simp [hc]
      · rw [String.toList_ofList]
        intro hmem
        simpa using List.mem_takeWhile_imp hmem
  · rintro ⟨rfl, hkey⟩
    have hne : ∀ c ∈ key.toList, (c != '=') = true := by
      intro c hc
      rw [bne_iff_ne]
      rintro rfl
      exact hkey hc
    have hline : (key ++ "=" ++ value).toList = key.toList ++ '=' :: value.toList := by simp
    rw [splitAtEquals?, hline, List.dropWhile_append_of_pos hne, List.takeWhile_append_of_pos hne]
    simp

lemma Splits.unique {line key value key' value' : String} (h : Splits line key value)
    (h' : Splits line key' value') : key = key' ∧ value = value' := by
  rw [← splitAtEquals?_eq_some_iff] at h h'
  simpa using h.symm.trans h'

end Text

lemma Outcome.ofName?_eq_some_iff {name : String} {outcome : Outcome} :
    ofName? name = some outcome ↔ name = outcome.name := by
  constructor
  · intro h
    have hname := List.find?_some h
    exact (beq_iff_eq.mp hname).symm
  · rintro rfl
    cases outcome <;> decide

lemma Outcome.ofName?_eq_none_iff {name : String} :
    ofName? name = none ↔ ∀ outcome : Outcome, name ≠ outcome.name := by
  simp only [Option.eq_none_iff_forall_ne_some, ne_eq, ofName?_eq_some_iff]

namespace Verdict

open Jury.Text

/-! ### What a line says -/

/-- Whether a line gives this outcome. -/
def Gives (line : String) (outcome : Outcome) : Prop :=
  ∃ key value, Splits line key value ∧ trim key = "outcome" ∧ trim value = outcome.name

/-- Whether this is what is reported of a line: what keeps it from giving an outcome, or that it
gives one where there is one already. -/
def Blames (number : Nat) (line : String) : VerdictFault → Prop
  | .malformed n => n = number ∧ '=' ∉ line.toList
  | .unknownTag n key =>
    n = number ∧ ∃ side value, Splits line side value ∧ trim side = key ∧ key ≠ "outcome"
  | .tagFormat name =>
    ∃ key value, Splits line key value ∧ trim key = "outcome" ∧ trim value = name ∧
      ∀ outcome : Outcome, name ≠ outcome.name
  | .tagRedefined => ∃ outcome, Gives line outcome
  | .tagMissing => False

section

variable {number : Nat} {found : Option Outcome} {line : String} {outcome : Outcome}
  {fault : VerdictFault}

/-- A line is read as an outcome if it gives one, and none was found before. -/
lemma readLine_eq_ok_iff :
    readLine number found line = .ok outcome ↔ found = none ∧ Gives line outcome := by
  rw [readLine]
  cases hsplit : splitAtEquals? line with
  | none =>
    simp only [reduceCtorEq, false_iff]
    rintro ⟨-, key, value, hsides, -⟩
    rw [← splitAtEquals?_eq_some_iff, hsplit] at hsides
    cases hsides
  | some sides =>
    obtain ⟨key, value⟩ := sides
    have hsides := splitAtEquals?_eq_some_iff.mp hsplit
    have hgives : Gives line outcome ↔
        trim key = tag ∧ Outcome.ofName? (trim value) = some outcome := by
      rw [Outcome.ofName?_eq_some_iff]
      constructor
      · rintro ⟨key', value', hsides', hkey, hvalue⟩
        obtain ⟨rfl, rfl⟩ := hsides.unique hsides'
        exact ⟨hkey, hvalue⟩
      · rintro ⟨hkey, hvalue⟩
        exact ⟨key, value, hsides, hkey, hvalue⟩
    rw [hgives]
    by_cases hkey : trim key = tag
    · cases hname : Outcome.ofName? (trim value) <;> cases found <;> simp [hkey, hname]
    · simp [hkey]

/-- What is reported of a line is a fault of that line. -/
lemma blames_of_readLine (h : readLine number found line = .error fault) :
    Blames number line fault := by
  rw [readLine] at h
  cases hsplit : splitAtEquals? line with
  | none =>
    rw [hsplit] at h
    cases h
    exact ⟨rfl, splitAtEquals?_eq_none_iff.mp hsplit⟩
  | some sides =>
    obtain ⟨key, value⟩ := sides
    have hsides := splitAtEquals?_eq_some_iff.mp hsplit
    simp only [hsplit] at h
    split_ifs at h with hkey
    · cases h
      exact ⟨rfl, key, value, hsides, rfl, hkey⟩
    · rw [ne_eq, not_not] at hkey
      cases hname : Outcome.ofName? (trim value) with
      | none =>
        rw [hname] at h
        cases h
        exact ⟨key, value, hsides, hkey, rfl, Outcome.ofName?_eq_none_iff.mp hname⟩
      | some outcome =>
        rw [hname] at h
        cases found with
        | none => cases h
        | some first =>
          cases h
          exact ⟨outcome, key, value, hsides, hkey, Outcome.ofName?_eq_some_iff.mp hname⟩

/-- A fault of a line is reported, unless the line gives the first outcome. -/
lemma readLine_of_blames (h : Blames number line fault)
    (hfound : found = none → ∀ outcome, ¬Gives line outcome) :
    readLine number found line = .error fault := by
  cases fault with
  | malformed n =>
    obtain ⟨rfl, hno⟩ := h
    rw [readLine, splitAtEquals?_eq_none_iff.mpr hno]
  | unknownTag n key =>
    obtain ⟨rfl, side, value, hsides, rfl, hne⟩ := h
    rw [readLine, splitAtEquals?_eq_some_iff.mpr hsides]
    exact if_pos hne
  | tagFormat name =>
    obtain ⟨key, value, hsides, hkey, rfl, hnone⟩ := h
    rw [readLine, splitAtEquals?_eq_some_iff.mpr hsides]
    simp [hkey, tag, Outcome.ofName?_eq_none_iff.mpr hnone]
  | tagRedefined =>
    obtain ⟨outcome, hgives⟩ := h
    cases found with
    | none => exact absurd hgives (hfound rfl outcome)
    | some first =>
      obtain ⟨key, value, hsides, hkey, hvalue⟩ := hgives
      rw [readLine, splitAtEquals?_eq_some_iff.mpr hsides]
      simp [hkey, tag, Outcome.ofName?_eq_some_iff.mpr hvalue]
  | tagMissing => exact h.elim

lemma readLine_eq_error_iff :
    readLine number found line = .error fault ↔
      Blames number line fault ∧ (found = none → ∀ outcome, ¬Gives line outcome) := by
  constructor
  · intro h
    refine ⟨blames_of_readLine h, ?_⟩
    intro hnone outcome hgives
    cases h.symm.trans (readLine_eq_ok_iff.mpr ⟨hnone, hgives⟩)
  · rintro ⟨hblames, hfound⟩
    exact readLine_of_blames hblames hfound

end

/-! ### What a text says -/

/-- Those of these lines that are not blank, each with its number, where the first has the number
`number`. -/
def filledFrom (number : Nat) (lines : List String) : List (String × Nat) :=
  (lines.zipIdx number).filter fun numbered => !numbered.1.toList.all isBlank

/-- The lines of a text that are not blank, each with its number; blank ones count. -/
def filled (text : String) : List (String × Nat) :=
  filledFrom 0 (lines text)

/-- Where all lines are blank, what was found before is the result. -/
lemma readLines_of_filled_nil {number : Nat} {lines : List String}
    (h : filledFrom number lines = []) (found : Option Outcome) :
    readLines number found lines = readLines 0 found [] := by
  induction lines generalizing number with
  | nil => rfl
  | cons line lines ih =>
    rw [filledFrom, List.zipIdx_cons, List.filter_cons] at h
    split_ifs at h with hblank
    rw [readLines, if_pos (by simpa using hblank)]
    exact ih h

/-- The first line that is not blank is read, and then the lines behind it. -/
lemma readLines_of_filled_cons {number n : Nat} {lines : List String} {line : String}
    {rest : List (String × Nat)} (h : filledFrom number lines = (line, n) :: rest)
    (found : Option Outcome) :
    ∃ behind, filledFrom (n + 1) behind = rest ∧
      readLines number found lines =
        match readLine n found line with
        | .error fault => .error fault
        | .ok outcome => readLines (n + 1) (some outcome) behind := by
  induction lines generalizing number with
  | nil => cases h
  | cons first lines ih =>
    rw [filledFrom, List.zipIdx_cons, List.filter_cons] at h
    split_ifs at h with hblank
    · obtain ⟨hfirst, rfl⟩ := List.cons.inj h
      cases hfirst
      exact ⟨lines, rfl, if_neg (by simpa using hblank)⟩
    · rw [readLines, if_pos (by simpa using hblank)]
      exact ih h

section

variable {text : String}

lemma parse_of_filled_nil (h : filled text = []) : parse text = .error .tagMissing :=
  readLines_of_filled_nil h none

/-- Only the first two lines that are not blank are ever read. -/
lemma parse_of_filled_cons {line : String} {number : Nat} {rest : List (String × Nat)}
    (h : filled text = (line, number) :: rest) :
    parse text =
      match readLine number none line, rest with
      | .error fault, _ => .error fault
      | .ok outcome, [] => .ok outcome
      | .ok outcome, (second, n) :: _ => readLine n (some outcome) second := by
  obtain ⟨behind, hbehind, hread⟩ := readLines_of_filled_cons h none
  rw [parse, hread]
  cases hfirst : readLine number none line with
  | error fault => rfl
  | ok outcome =>
    cases rest with
    | nil => exact readLines_of_filled_nil hbehind (some outcome)
    | cons second rest =>
      obtain ⟨_, -, hsecond⟩ := readLines_of_filled_cons hbehind (some outcome)
      dsimp only
      rw [hsecond]
      -- where there is an outcome already, no line is read as another
      cases hline : readLine second.2 (some outcome) second.1 with
      | error fault => rfl
      | ok outcome' => cases (readLine_eq_ok_iff.mp hline).1

/-- A text is read as an outcome if the only line that is not blank gives it. -/
lemma parse_eq_ok_iff {outcome : Outcome} :
    parse text = .ok outcome ↔
      ∃ line number, filled text = [(line, number)] ∧ Gives line outcome := by
  constructor
  · intro h
    cases hfilled : filled text with
    | nil =>
      rw [parse_of_filled_nil hfilled] at h
      cases h
    | cons first rest =>
      obtain ⟨line, number⟩ := first
      rw [parse_of_filled_cons hfilled] at h
      cases hfirst : readLine number none line with
      | error fault =>
        rw [hfirst] at h
        cases h
      | ok outcome' =>
        rw [hfirst] at h
        cases rest with
        | nil =>
          cases h
          exact ⟨line, number, rfl, (readLine_eq_ok_iff.mp hfirst).2⟩
        | cons second rest => cases (readLine_eq_ok_iff.mp h).1
  · rintro ⟨line, number, hfilled, hgives⟩
    rw [parse_of_filled_cons hfilled, readLine_eq_ok_iff.mpr ⟨rfl, hgives⟩]

/-- What is reported of a text is that it has no lines but blank ones, or the fault of one line: the
first that gives no outcome, or the second. -/
lemma parse_eq_error_iff {fault : VerdictFault} :
    parse text = .error fault ↔
      (filled text = [] ∧ fault = .tagMissing) ∨
      (∃ line number rest, filled text = (line, number) :: rest ∧
        (∀ outcome, ¬Gives line outcome) ∧ Blames number line fault) ∨
      ∃ first line number rest, filled text = first :: (line, number) :: rest ∧
        (∃ outcome, Gives first.1 outcome) ∧ Blames number line fault := by
  constructor
  · intro h
    cases hfilled : filled text with
    | nil =>
      rw [parse_of_filled_nil hfilled] at h
      cases h
      exact .inl ⟨rfl, rfl⟩
    | cons first rest =>
      obtain ⟨line, number⟩ := first
      rw [parse_of_filled_cons hfilled] at h
      cases hfirst : readLine number none line with
      | error fault' =>
        rw [hfirst] at h
        cases h
        obtain ⟨hblames, hnone⟩ := readLine_eq_error_iff.mp hfirst
        exact .inr (.inl ⟨line, number, rest, rfl, hnone rfl, hblames⟩)
      | ok outcome =>
        rw [hfirst] at h
        cases rest with
        | nil => cases h
        | cons second rest =>
          have hgives := (readLine_eq_ok_iff.mp hfirst).2
          have hblames := (readLine_eq_error_iff.mp h).1
          exact .inr (.inr ⟨_, _, _, rest, rfl, ⟨outcome, hgives⟩, hblames⟩)
  · rintro (⟨hfilled, rfl⟩ | ⟨line, number, rest, hfilled, hnone, hblames⟩ |
      ⟨first, line, number, rest, hfilled, ⟨outcome, hgives⟩, hblames⟩)
    · exact parse_of_filled_nil hfilled
    · rw [parse_of_filled_cons hfilled, readLine_eq_error_iff.mpr ⟨hblames, fun _ => hnone⟩]
    · rw [parse_of_filled_cons hfilled, readLine_eq_ok_iff.mpr ⟨rfl, hgives⟩]
      exact readLine_eq_error_iff.mpr ⟨hblames, by simp⟩

end

/-- **One line decides.** A text is read as an outcome just if one line of it is not blank and that
line gives the outcome. If all lines are blank, the tag is reported as missing. Otherwise what is
reported is the fault of one line, numbered with the blank lines before it: of the first line that
is not blank, if that one gives no outcome, and else of the second. What comes behind that line
makes no difference. -/
theorem parse_eq_iff (text : String) :
    (∀ outcome, parse text = .ok outcome ↔
      ∃ line number, filled text = [(line, number)] ∧ Gives line outcome) ∧
    ∀ fault, parse text = .error fault ↔
      (filled text = [] ∧ fault = .tagMissing) ∨
      (∃ line number rest, filled text = (line, number) :: rest ∧
        (∀ outcome, ¬Gives line outcome) ∧ Blames number line fault) ∨
      ∃ first line number rest, filled text = first :: (line, number) :: rest ∧
        (∃ outcome, Gives first.1 outcome) ∧ Blames number line fault :=
  ⟨fun _ => parse_eq_ok_iff, fun _ => parse_eq_error_iff⟩

/-- A second line is at fault for its value before it is at fault for being the second. -/
example : parse "\noutcome=Ok\n\u2003\n outcome = Okay\nscore" = .error (.tagFormat "Okay") := by
  decide

end Verdict

end Jury
