import Jury.Proofs.Checker.Lockstep
import Jury.Proofs.Text.Decoding

/-!
# Which answers the exact comparison accepts

Tokens are compared as they are read, and reading turns whatever is not UTF-8 into U+FFFD. The
exact comparison accepts an answer whose tokens are those of the correct one, and beyond these only
answers where tokens that are not valid UTF-8 happen to be read alike (`checkTokens_exact`).
-/

namespace Jury.Checker

/-! ### Acceptance -/

/-- Two rows are equal just if their tokens match in pairs. -/
lemma outcome_compareRows_eq_ok_iff (options : CompareOptions) (position : Nat)
    (expected actual : List String) :
    (compareRows options position expected actual).outcome = .ok ↔
      List.Forall₂ (fun e a => tokensMatch options e a = true) expected actual := by
  fun_induction compareRows options position expected actual with
  | case1 => simp [Finding.outcome]
  | case2 => simp [Finding.outcome]
  | case3 => simp [Finding.outcome]
  | case4 position e expected a actual hmatch ih => rw [ih, List.forall₂_cons, and_iff_right hmatch]
  | case5 position e expected a actual hmatch => simp [Finding.outcome, hmatch]

/-- On streams that can be read, an answer is accepted just if its tokens match the correct ones in
pairs. -/
lemma checkTokens_eq_ok_iff (options : CompareOptions) {s : Session} (hseparate : s.IsSeparate)
    (hcorrect : (s.reader .correct).IsSound) (hsolution : (s.reader .solution).IsSound) :
    (checkTokens options s).1 = .ok .ok ↔
      List.Forall₂ (fun e a => tokensMatch options e a = true)
        (s.reader .correct).tokens (s.reader .solution).tokens := by
  obtain ⟨s', -, -, hwalk⟩ :=
    walkTokens_eq options 0 ⟨hseparate, hcorrect, hsolution, rfl, rfl⟩
  rw [checkTokens, hwalk, Finding.conclude, Except.ok.injEq, outcome_compareRows_eq_ok_iff]

/-- An answer of one token is accepted just if it matches the one correct token. -/
lemma checkTokens_single (options : CompareOptions) {expected actual : String}
    (hexpected : Text.IsToken expected) (hactual : Text.IsToken actual) :
    (checkTokens options
        (Session.ofBytes [] (Utf8.encode expected) (Utf8.encode actual))).1 = .ok .ok ↔
      tokensMatch options expected actual = true := by
  have hsound := Session.isSound_ofBytes [] (Utf8.encode expected) (Utf8.encode actual)
  rw [checkTokens_eq_ok_iff options (Session.isSeparate_ofBytes _ _ _) (hsound .correct)
    (hsound .solution), Session.tokens_ofBytes, Session.tokens_ofBytes]
  simp only [PerStream.get, Utf8.runs_encode hexpected, Utf8.runs_encode hactual,
    List.map_singleton, Utf8.decodeLossy_encode, List.forall₂_cons, List.Forall₂.nil, and_true]

/-! ### Tokens that are read alike -/

/-- Whether two words have a reading in common that does not give them away: they are not both
UTF-8, and a broken part shows as U+FFFD in what is read. -/
def IsBlurred (expected actual : List UInt8) : Prop :=
  Utf8.decodeLossy expected = Utf8.decodeLossy actual ∧
    '\uFFFD' ∈ (Utf8.decodeLossy expected).toList ∧
    ¬(Utf8.IsValid expected ∧ Utf8.IsValid actual)

/-- Without a tolerance and with an eye for case, words match if they are read alike. -/
lemma tokensMatch_exact_iff (expected actual : List UInt8) :
    tokensMatch {} (Utf8.decodeLossy expected) (Utf8.decodeLossy actual) = true ↔
      expected = actual ∨ IsBlurred expected actual := by
  have hexact : tokensMatch {} (Utf8.decodeLossy expected) (Utf8.decodeLossy actual) = true ↔
      Utf8.decodeLossy expected = Utf8.decodeLossy actual := by
    simp [tokensMatch]
  rw [hexact]
  constructor
  · intro hread
    rcases Utf8.eq_of_decodeLossy_eq hread with rfl | hblurred
    · exact .inl rfl
    · exact .inr ⟨hread, hblurred⟩
  · rintro (rfl | ⟨hread, -⟩)
    · rfl
    · exact hread

/-- Rows that match where no pair is blurred are the same. -/
lemma forall₂_eq_or_iff {expected actual : List (List UInt8)}
    (hsharp : ∀ e ∈ expected, ∀ a ∈ actual, ¬IsBlurred e a) :
    List.Forall₂ (fun e a => e = a ∨ IsBlurred e a) expected actual ↔ expected = actual := by
  constructor
  · intro h
    induction h with
    | nil => rfl
    | cons hpair _ ih =>
      obtain rfl := hpair.resolve_right (hsharp _ List.mem_cons_self _ List.mem_cons_self)
      rw [ih fun e he a ha =>
        hsharp e (List.mem_cons_of_mem _ he) a (List.mem_cons_of_mem _ ha)]
  · rintro rfl
    exact List.forall₂_same.mpr fun _ _ => .inl rfl

/-! ### The exact comparison -/

/-- **The exact comparison.** On streams that can be read, the token checker accepts an answer
without tolerance and with an eye for case exactly when the words of the two streams are the same in
pairs, but for pairs that are not both UTF-8 and are read alike. So it accepts nothing but the same
words where all words are UTF-8, whatever the texts, and where the correct words are UTF-8 that does
not hold U+FFFD, whatever the answer. -/
theorem checkTokens_exact {s : Session} (hseparate : s.IsSeparate)
    (hcorrect : (s.reader .correct).IsSound) (hsolution : (s.reader .solution).IsSound) :
    let expected := (s.reader .correct).words
    let actual := (s.reader .solution).words
    let accepted := (checkTokens {} s).1 = .ok .ok
    (accepted ↔ List.Forall₂ (fun e a => e = a ∨ IsBlurred e a) expected actual) ∧
      ((∀ word ∈ expected ++ actual, Utf8.IsValid word) → (accepted ↔ expected = actual)) ∧
      ((∀ word ∈ expected, ∃ text, word = Utf8.encode text ∧ '\uFFFD' ∉ text.toList) →
        (accepted ↔ expected = actual)) := by
  intro expected actual accepted
  have hpairs : accepted ↔
      List.Forall₂ (fun e a => e = a ∨ IsBlurred e a) expected actual := by
    refine (checkTokens_eq_ok_iff {} hseparate hcorrect hsolution).trans ?_
    rw [TokenReader.tokens, TokenReader.tokens, List.forall₂_map_left_iff,
      List.forall₂_map_right_iff]
    simp only [tokensMatch_exact_iff]
    rfl
  refine ⟨hpairs, ?_, ?_⟩
  · intro hvalid
    rw [hpairs]
    apply forall₂_eq_or_iff
    rintro e he a ha ⟨-, -, hbroken⟩
    exact hbroken ⟨hvalid e (List.mem_append_left _ he), hvalid a (List.mem_append_right _ ha)⟩
  · intro hwhole
    rw [hpairs]
    apply forall₂_eq_or_iff
    rintro e he a - ⟨-, hmark, -⟩
    obtain ⟨text, rfl, htext⟩ := hwhole e he
    rw [Utf8.decodeLossy_encode] at hmark
    exact htext hmark

/-- The same two words, the second of which is not ASCII. -/
theorem checkTokens_exact_same :
    let s := Session.ofBytes [] (Utf8.encode "1 ä") (Utf8.encode "1\nä\n")
    s.IsSeparate ∧ (s.reader .correct).IsSound ∧ (s.reader .solution).IsSound ∧
      (checkTokens {} s).1 = .ok .ok := by
  intro s
  have hseparate := Session.isSeparate_ofBytes [] (Utf8.encode "1 ä") (Utf8.encode "1\nä\n")
  have hsound := Session.isSound_ofBytes [] (Utf8.encode "1 ä") (Utf8.encode "1\nä\n")
  have hcorrect : (s.reader .correct).words = [Utf8.encode "1", Utf8.encode "ä"] := by
    rw [Session.words_ofBytes]
    decide +kernel
  have hsolution : (s.reader .solution).words = [Utf8.encode "1", Utf8.encode "ä"] := by
    rw [Session.words_ofBytes]
    decide +kernel
  obtain ⟨-, -, hwhole⟩ := checkTokens_exact hseparate (hsound .correct) (hsound .solution)
  refine ⟨hseparate, hsound .correct, hsound .solution, (hwhole ?_).mpr ?_⟩
  · rw [hcorrect]
    intro word hword
    rcases List.mem_pair.mp hword with rfl | rfl
    · exact ⟨"1", rfl, by decide⟩
    · exact ⟨"ä", rfl, by decide⟩
  · rw [hcorrect, hsolution]

/-- Two bytes that are no UTF-8 are read alike, and one is accepted for the other. -/
theorem checkTokens_exact_blurred :
    let s := Session.ofBytes [] [0xFF] [0xFE]
    (checkTokens {} s).1 = .ok .ok ∧
      (s.reader .correct).words ≠ (s.reader .solution).words := by
  intro s
  have hsound := Session.isSound_ofBytes [] [0xFF] [0xFE]
  constructor
  · rw [checkTokens_eq_ok_iff {} (Session.isSeparate_ofBytes [] [0xFF] [0xFE]) (hsound .correct)
      (hsound .solution), Session.tokens_ofBytes, Session.tokens_ofBytes]
    decide +kernel
  · rw [Session.words_ofBytes, Session.words_ofBytes]
    decide +kernel

end Jury.Checker
