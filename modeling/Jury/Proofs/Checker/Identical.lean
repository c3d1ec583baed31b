import Jury.Command.CmpTokens
import Jury.Proofs.Checker.Acceptance
import Jury.Proofs.Checker.PlainDecimals

/-!
# An answer compared with itself

A token matches itself under all options that the command line admits, except where a tolerance is
asked for and the token is a plain decimal so large that it is read as an infinity, which is within
no tolerance of anything (`checkTokens_identical`).
-/

namespace Jury.Checker

/-! ### Options -/

/-- Whether the options are such as the command line admits: a tolerance is a finite number that is
not negative. -/
def CompareOptions.IsAdmissible (options : CompareOptions) : Prop :=
  ∀ tolerance, options.tolerance = some tolerance →
    tolerance.isFinite = true ∧ tolerance.isNonNegative = true

/-- The command line admits no other options. -/
lemma isAdmissible_of_compareOptions {arguments : Command.CmpTokens.Arguments}
    {options : CompareOptions} (h : Command.CmpTokens.compareOptions arguments = .ok options) :
    options.IsAdmissible := by
  intro tolerance htolerance
  rw [Command.CmpTokens.compareOptions] at h
  split at h
  · cases h
    cases htolerance
  · split at h
    · next text _ read hread =>
      cases h
      obtain rfl : read = tolerance := Option.some.inj htolerance
      simpa using (Option.filter_eq_some_iff.mp hread).2
    · cases h

/-! ### Tokens -/

/-- Whether a token is a plain decimal that is read as an infinity. -/
def Overflows (token : String) : Prop :=
  ∃ d : PlainDecimal, token = d.text ∧ d.IsTooLarge

lemma overflows_text_iff (d : PlainDecimal) : Overflows d.text ↔ ¬d.value.isFinite = true := by
  rw [d.isFinite_value_iff, not_not]
  constructor
  · rintro ⟨d', htext, hlarge⟩
    have hvalue : d.value = d'.value := by
      have hread := d.parse?_text
      rw [htext, d'.parse?_text] at hread
      exact (Option.some.inj hread).symm
    rwa [← not_not (a := d.IsTooLarge), ← d.isFinite_value_iff, hvalue, d'.isFinite_value_iff,
      not_not]
  · intro hlarge
    exact ⟨d, rfl, hlarge⟩

lemma nearest_zero (den : Nat) : Binary64.nearest false 0 den = .finite false 0 := by
  have hquotient : Binary64.divideToEven 0 den = 0 := by simp [Binary64.divideToEven]
  simp [Binary64.nearest, Binary64.spacing, hquotient, Binary64.ceiling]

/-- A number is within every tolerance of itself just if it is finite. -/
lemma withinTolerance_self {tolerance : Binary64} (htolerance : tolerance.isNonNegative = true)
    (x : Binary64) : withinTolerance x x tolerance = x.isFinite := by
  cases x with
  | nan => rfl
  | infinite negative => rfl
  | finite negative units =>
    have hdistance : Binary64.distance negative units negative units = .finite false 0 := by
      rw [Binary64.distance, Int.sub_self]
      exact nearest_zero 1
    have hshare : (Binary64.finite false 0).dividedBy units = .finite false 0 := by
      rw [Binary64.dividedBy, Nat.zero_mul]
      exact nearest_zero units
    simp only [withinTolerance, hdistance, hshare, ite_self]
    exact htolerance

lemma tokensMatch_self_iff {options : CompareOptions} (hadmissible : options.IsAdmissible)
    (token : String) :
    tokensMatch options token token = true ↔ options.tolerance = none ∨ ¬Overflows token := by
  have hcase : equalIgnoringCase token token = true := by simp [equalIgnoringCase]
  cases htolerance : options.tolerance with
  | none => simp [tokensMatch, htolerance, hcase]
  | some tolerance =>
    by_cases hplain : isPlainDecimal token = true
    · obtain ⟨d, rfl⟩ := isPlainDecimal_iff.mp hplain
      have hwithin := withinTolerance_self (hadmissible tolerance htolerance).2 d.value
      simp [tokensMatch, htolerance, hplain, d.parse?_text, hwithin, overflows_text_iff]
    · have hsmall : ¬Overflows token := by
        rintro ⟨d, rfl, -⟩
        exact hplain (isPlainDecimal_iff.mpr ⟨d, rfl⟩)
      simp [tokensMatch, htolerance, hplain, hcase, hsmall]

/-! ### Answers -/

/-- **An answer compared with itself.** Under options that the command line admits, a token matches
itself unless there is a tolerance and the token is a plain decimal of 2^1024 - 2^970 or more in
size. So, on streams that can be read, an answer that is byte for byte the correct one is accepted
exactly if there is no tolerance, or no such token. -/
theorem checkTokens_identical {options : CompareOptions} (hadmissible : options.IsAdmissible) :
    (∀ token, tokensMatch options token token = true ↔
      options.tolerance = none ∨ ¬Overflows token) ∧
    ∀ s : Session, s.IsSeparate → (s.reader .correct).IsSound → (s.reader .solution).IsSound →
      (s.reader .correct).remaining = (s.reader .solution).remaining →
        ((checkTokens options s).1 = .ok .ok ↔
          options.tolerance = none ∨ ∀ token ∈ (s.reader .correct).tokens, ¬Overflows token) := by
  refine ⟨tokensMatch_self_iff hadmissible, ?_⟩
  intro s hseparate hcorrect hsolution hsame
  have htokens : (s.reader .solution).tokens = (s.reader .correct).tokens := by
    rw [TokenReader.tokens, TokenReader.words, ← hsame]
    rfl
  rw [checkTokens_eq_ok_iff options hseparate hcorrect hsolution, htokens, List.forall₂_same]
  simp only [tokensMatch_self_iff hadmissible]
  cases options.tolerance <;> simp

/-- A number and a word, with the strictest tolerance. -/
theorem checkTokens_identical_zero :
    let options : CompareOptions := { tolerance := some (.finite false 0) }
    let answer := Utf8.encode "-3.50 x\n"
    let s := Session.ofBytes [] answer answer
    options.IsAdmissible ∧ s.IsSeparate ∧ (s.reader .correct).IsSound ∧
      (s.reader .solution).IsSound ∧
      (s.reader .correct).remaining = (s.reader .solution).remaining ∧
      (checkTokens options s).1 = .ok .ok := by
  intro options answer s
  have hoptions : Command.CmpTokens.compareOptions { epsilon := some "0" } = .ok options := by
    decide +kernel
  have hadmissible := isAdmissible_of_compareOptions hoptions
  have hseparate := Session.isSeparate_ofBytes [] answer answer
  have hsound := Session.isSound_ofBytes [] answer answer
  refine ⟨hadmissible, hseparate, hsound .correct, hsound .solution, rfl, ?_⟩
  obtain ⟨htokens, hanswers⟩ := checkTokens_identical hadmissible
  refine (hanswers s hseparate (hsound .correct) (hsound .solution) rfl).mpr (.inr ?_)
  rw [Session.tokens_ofBytes]
  have hmatch : ∀ token ∈ (Text.runs Text.isSeparatorByte answer).map Utf8.decodeLossy,
      tokensMatch options token token = true := by decide +kernel
  intro token htoken
  exact ((htokens token).mp (hmatch token htoken)).resolve_left (by simp [options])

/-- A one with a number of zeros behind it. -/
def powerOfTen (zeros : Nat) : PlainDecimal where
  negative := false
  whole := '1' :: List.replicate zeros '0'
  fraction := []
  whole_ne_nil := List.cons_ne_nil _ _
  digits := by
    intro c hc
    rw [List.append_nil] at hc
    rcases List.mem_cons.mp hc with rfl | hzero
    · rfl
    · rw [(List.mem_replicate.mp hzero).2]
      rfl

lemma isTooLarge_powerOfTen {zeros : Nat} (h : 2 ^ 1024 - 2 ^ 970 ≤ 10 ^ zeros) :
    (powerOfTen zeros).IsTooLarge := by
  have hvalue : Nat.ofDigitChars 10 ((powerOfTen zeros).whole ++ (powerOfTen zeros).fraction) 0 =
      10 ^ zeros := by
    simp [powerOfTen, Nat.ofDigitChars_cons]
  calc (2 ^ 1024 - 2 ^ 970) * 10 ^ (powerOfTen zeros).fraction.length
      = 2 ^ 1024 - 2 ^ 970 := Nat.mul_one _
    _ ≤ 10 ^ zeros := h
    _ = _ := hvalue.symm

/-- A one with 309 zeros is read as an infinity and does not match itself. -/
theorem checkTokens_identical_overflow :
    let options : CompareOptions := { tolerance := some (.finite false 0) }
    let token := String.ofList ('1' :: List.replicate 309 '0')
    Command.CmpTokens.compareOptions { epsilon := some "0" } = .ok options ∧
      tokensMatch options token token ≠ true ∧
      (checkTokens options
        (Session.ofBytes [] (Utf8.encode token) (Utf8.encode token))).1 ≠ .ok .ok := by
  intro options token
  have hoptions : Command.CmpTokens.compareOptions { epsilon := some "0" } = .ok options := by
    decide +kernel
  have htext : token = (powerOfTen 309).text :=
    congrArg String.ofList (List.append_nil _).symm
  have hlarge : Overflows token :=
    ⟨powerOfTen 309, htext, isTooLarge_powerOfTen (by decide +kernel)⟩
  have hmismatch : tokensMatch options token token ≠ true := by
    rw [ne_eq, tokensMatch_self_iff (isAdmissible_of_compareOptions hoptions)]
    simp [options, hlarge]
  have htoken : Text.IsToken token := htext ▸ (powerOfTen 309).isToken_text
  refine ⟨hoptions, hmismatch, ?_⟩
  rwa [ne_eq, checkTokens_single options htoken htoken]

end Jury.Checker
