import Mathlib.Data.Option.Defs
import Jury.Proofs.Checker.Acceptance

/-!
# Looser options

Options that ask for less accept at least as much: an answer that is right within a tolerance is
right within every larger one, and an answer that is right with an eye for case is right without it
(`checkTokens_loosened`). The streams may be any, also such as cannot be read to their ends. Whether
a pair of tokens is compared as numbers depends on the expected token and on whether there is a
tolerance, so both runs compare each pair in the same way.
-/

namespace Jury

lemma Binary64.le_trans {x y z : Binary64} (hxy : x.le y = true) (hyz : y.le z = true) :
    x.le z = true := by
  rcases y with _ | (_ | _) | ⟨n, b⟩
  -- nothing is below what is not a number, and only the infinities are beyond the infinities
  · cases x <;> simp [le] at hxy
  · rcases z with _ | (_ | _) | _ <;> simp [le] at hyz
    rcases x with _ | (_ | _) | _ <;> simp [le] at hxy ⊢
  · rcases x with _ | (_ | _) | _ <;> simp [le] at hxy
    rcases z with _ | (_ | _) | _ <;> simp [le] at hyz ⊢
  · rcases x with _ | (_ | _) | ⟨m, a⟩ <;> rcases z with _ | (_ | _) | ⟨p, c⟩ <;>
      simp only [le, decide_eq_true_eq, Bool.false_eq_true] at hxy hyz ⊢
    exact Int.le_trans hxy hyz

namespace Checker

/-! ### Options that ask for less -/

/-- Whether `loose` asks for no more than `strict`: there is a tolerance in both or in neither,
whatever is at most that of `strict` is at most that of `loose`, and `loose` heeds case only if
`strict` does. -/
structure CompareOptions.IsLooserThan (loose strict : CompareOptions) : Prop where
  tolerance : Option.Rel
    (fun least most => ∀ x : Binary64, x.le least = true → x.le most = true)
    strict.tolerance loose.tolerance
  ignoreCase : strict.ignoreCase = true → loose.ignoreCase = true

section

variable {strict loose : CompareOptions}

/-- Numbers within a tolerance are within every one that admits as much. -/
lemma withinTolerance_mono {expected actual tolerance tolerance' : Binary64}
    (hadmits : ∀ x : Binary64, x.le tolerance = true → x.le tolerance' = true)
    (h : withinTolerance expected actual tolerance = true) :
    withinTolerance expected actual tolerance' = true := by
  cases expected with
  | finite m a =>
    cases actual with
    | finite n b =>
      simp only [withinTolerance] at h ⊢
      split_ifs at h ⊢ with hsmall
      · exact hadmits _ h
      · exact hadmits _ h
    | _ => cases h
  | _ => cases h

/-- An expected plain decimal is compared as a number if there is a tolerance. -/
lemma tokensMatch_number_iff {options : CompareOptions} {tolerance : Binary64}
    (htolerance : options.tolerance = some tolerance) {expected actual : String}
    (hplain : isPlainDecimal expected = true) :
    tokensMatch options expected actual = true ↔
      ∃ e a, Binary64.parse? expected = some e ∧ Binary64.parse? actual = some a ∧
        withinTolerance e a tolerance = true := by
  rw [tokensMatch, htolerance, hplain]
  cases Binary64.parse? expected <;> cases Binary64.parse? actual <;> simp

/-- Without a tolerance, or if it is no plain decimal, an expected token is compared as text. -/
lemma tokensMatch_text {options : CompareOptions} {expected : String}
    (htext : options.tolerance = none ∨ isPlainDecimal expected = false) (actual : String) :
    tokensMatch options expected actual =
      if options.ignoreCase then equalIgnoringCase expected actual else expected == actual := by
  rw [tokensMatch]
  rcases htext with htext | htext
  · rw [htext]
  · rw [htext]
    cases options.tolerance <;> rfl

/-- Texts that match with an eye for case match without it. -/
lemma textsMatch_mono (hcase : strict.ignoreCase = true → loose.ignoreCase = true)
    {expected actual : String}
    (h : (if strict.ignoreCase then equalIgnoringCase expected actual else expected == actual) =
      true) :
    (if loose.ignoreCase then equalIgnoringCase expected actual else expected == actual) =
      true := by
  by_cases hstrict : strict.ignoreCase = true
  · rw [if_pos hstrict] at h
    rwa [if_pos (hcase hstrict)]
  · rw [if_neg hstrict] at h
    obtain rfl : expected = actual := eq_of_beq h
    simp [equalIgnoringCase]

/-- Tokens that match under options match under looser ones. -/
lemma tokensMatch_mono (hlooser : loose.IsLooserThan strict) {expected actual : String}
    (h : tokensMatch strict expected actual = true) : tokensMatch loose expected actual = true := by
  obtain ⟨htolerance, hcase⟩ := hlooser
  generalize hstrict : strict.tolerance = least at htolerance
  generalize hloose : loose.tolerance = most at htolerance
  cases htolerance with
  | none =>
    rw [tokensMatch_text (.inl hstrict)] at h
    rw [tokensMatch_text (.inl hloose)]
    exact textsMatch_mono hcase h
  | some hadmits =>
    cases hplain : isPlainDecimal expected with
    | false =>
      rw [tokensMatch_text (.inr hplain)] at h ⊢
      exact textsMatch_mono hcase h
    | true =>
      rw [tokensMatch_number_iff hstrict hplain] at h
      obtain ⟨e, a, hexpected, hactual, hwithin⟩ := h
      rw [tokensMatch_number_iff hloose hplain]
      exact ⟨e, a, hexpected, hactual, withinTolerance_mono hadmits hwithin⟩

/-! ### The walk -/

/-- A walk that ends well goes the same way under looser options. -/
lemma walkTokens_of_isLooserThan (hlooser : loose.IsLooserThan strict) {position : Nat}
    {s : Session} (h : (walkTokens strict position s).1 = .ok .ok) :
    walkTokens loose position s = walkTokens strict position s := by
  fun_induction walkTokens strict position s with
  | case1 => cases h
  | case2 => cases h
  | case3 position s s₁ s₂ _ _ hcorrect hsolution =>
    exact walkTokens_of_next loose position hcorrect hsolution
  | case4 => cases h
  | case5 => cases h
  | case6 position s s₁ s₂ expected actual _ _ hmatch hcorrect hsolution ih =>
    have hstep := walkTokens_of_next loose position hcorrect hsolution
    rw [hstep]
    simp only [tokensMatch_mono hlooser hmatch, if_true]
    exact ih h
  | case7 => cases h

end

/-! ### Acceptance -/

/-- **Looser options.** On any two answers, however their streams end: if the answer is right within
a tolerance, it is right within every tolerance that is at least as large, in either way of heeding
case; and if it is right with an eye for case, it is right without it, whatever the tolerance. The
comments and all that was read are then the same, too. -/
theorem checkTokens_loosened (s : Session) :
    (∀ (tolerance tolerance' : Binary64) (ignoreCase : Bool), tolerance.le tolerance' = true →
      (checkTokens ⟨some tolerance, ignoreCase⟩ s).1 = .ok .ok →
        checkTokens ⟨some tolerance', ignoreCase⟩ s = checkTokens ⟨some tolerance, ignoreCase⟩ s) ∧
    ∀ tolerance : Option Binary64,
      (checkTokens ⟨tolerance, false⟩ s).1 = .ok .ok →
        checkTokens ⟨tolerance, true⟩ s = checkTokens ⟨tolerance, false⟩ s := by
  constructor
  · intro tolerance tolerance' ignoreCase hle h
    have hadmits : ∀ x : Binary64, x.le tolerance = true → x.le tolerance' = true :=
      fun x hx => Binary64.le_trans hx hle
    have hlooser : CompareOptions.IsLooserThan ⟨some tolerance', ignoreCase⟩
        ⟨some tolerance, ignoreCase⟩ := ⟨.some hadmits, id⟩
    exact walkTokens_of_isLooserThan hlooser h
  · intro tolerance h
    refine walkTokens_of_isLooserThan ⟨?_, fun _ => rfl⟩ h
    cases tolerance with
    | none => exact .none
    | some tolerance => exact .some fun _ => id

/-- A number that is off by a half, within a thousandth and within a hundredth of its size. -/
theorem checkTokens_loosened_offByHalf :
    let s := Session.ofBytes [] (Utf8.encode "yes 1000.0") (Utf8.encode "yes 1000.5\n")
    ∃ tolerance tolerance' : Binary64,
      Binary64.parse? "0.001" = some tolerance ∧ Binary64.parse? "0.01" = some tolerance' ∧
      tolerance.le tolerance' = true ∧
      (checkTokens ⟨some tolerance, false⟩ s).1 = .ok .ok ∧
      (checkTokens ⟨some tolerance', false⟩ s).1 = .ok .ok ∧
      (checkTokens ⟨some tolerance, true⟩ s).1 = .ok .ok := by
  intro s
  obtain ⟨tolerance, htolerance⟩ : ∃ x, Binary64.parse? "0.001" = some x :=
    Option.isSome_iff_exists.mp (by decide +kernel)
  obtain ⟨tolerance', htolerance'⟩ : ∃ x, Binary64.parse? "0.01" = some x :=
    Option.isSome_iff_exists.mp (by decide +kernel)
  have hle : tolerance.le tolerance' = true := by
    have hread : (Binary64.parse? "0.001").all fun x =>
        (Binary64.parse? "0.01").all fun y => x.le y := by decide +kernel
    simpa [htolerance, htolerance'] using hread
  have hok : (checkTokens ⟨some tolerance, false⟩ s).1 = .ok .ok := by
    have hsound := Session.isSound_ofBytes [] (Utf8.encode "yes 1000.0")
      (Utf8.encode "yes 1000.5\n")
    rw [checkTokens_eq_ok_iff _ (Session.isSeparate_ofBytes _ _ _) (hsound .correct)
      (hsound .solution), Session.tokens_ofBytes, Session.tokens_ofBytes, ← htolerance]
    decide +kernel
  obtain ⟨hlarger, hcase⟩ := checkTokens_loosened s
  refine ⟨tolerance, tolerance', htolerance, htolerance', hle, hok, ?_, ?_⟩
  · rw [hlarger tolerance tolerance' false hle hok]
    exact hok
  · rw [hcase (some tolerance) hok]
    exact hok

end Checker

end Jury
