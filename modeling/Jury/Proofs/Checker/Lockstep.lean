import Mathlib.Data.List.Forall2
import Jury.Checker.Tokens
import Jury.Proofs.Checker.Splitting

/-!
# The verdict of the token checker

On streams that can be read, the token checker compares the two rows of tokens in lockstep and ends
with a finding (`walkTokens_eq`): the rows match, or one of them ends early, or two tokens differ.
Where the rows part is the number of tokens at their front that match in pairs
(`compareRows_eq`).
-/

namespace Jury.Checker

/-! ### Findings -/

/-- What a comparison of two rows of tokens comes to, with the position where they part. -/
inductive Finding where
  | equal (count : Nat)
  | earlyEnd (position : Nat) (expected : String)
  | additional (position : Nat) (actual : String)
  | mismatch (position : Nat) (expected actual : String)
  deriving DecidableEq, Repr

namespace Finding

def outcome : Finding → Outcome
  | equal _ => .ok
  | _ => .wrongAnswer

/-- The comments on a finding, in order. -/
def comments : Finding → List String
  | equal count => ["success: " ++ toString count ++ " tokens"]
  | earlyEnd position expected =>
    ["error: early EOF in actual answer on position " ++ toString position,
      "note: next expected token was " ++ expected]
  | additional position actual =>
    ["error: actual answer contains additional tokens, starting from " ++ toString position,
      "note: next actual token was " ++ actual]
  | mismatch position expected actual =>
    ["error: token mismatch on position " ++ toString position,
      "note: expected " ++ expected ++ ", got " ++ actual]

/-- Ends the comparison with a finding and comments on it. -/
def conclude (finding : Finding) (s : Session) : Except Stop Outcome × Session :=
  (.ok finding.outcome, finding.comments.foldl Session.comment s)

end Finding

/-- Compares two rows of tokens, before which `position` tokens matched. -/
def compareRows (options : CompareOptions) (position : Nat) :
    List String → List String → Finding
  | [], [] => .equal position
  | expected :: _, [] => .earlyEnd position expected
  | [], actual :: _ => .additional position actual
  | expected :: es, actual :: as =>
    if tokensMatch options expected actual then compareRows options (position + 1) es as
    else .mismatch position expected actual

/-! ### Where two rows part -/

/-- The number of tokens at the front of two rows that match in pairs. -/
def matchedLength (options : CompareOptions) (expected actual : List String) : Nat :=
  ((expected.zip actual).takeWhile fun pair => tokensMatch options pair.1 pair.2).length

section

variable (options : CompareOptions) (expected actual : List String)

lemma matchedLength_cons {e a : String} :
    matchedLength options (e :: expected) (a :: actual) =
      if tokensMatch options e a then matchedLength options expected actual + 1 else 0 := by
  by_cases hmatch : tokensMatch options e a = true
  · simp [matchedLength, hmatch]
  · simp [matchedLength, hmatch]

lemma matchedLength_le :
    matchedLength options expected actual ≤ expected.length ∧
      matchedLength options expected actual ≤ actual.length := by
  have hle := (List.takeWhile_prefix (l := expected.zip actual)
    (fun pair => tokensMatch options pair.1 pair.2)).length_le
  rw [List.length_zip] at hle
  exact Nat.le_min.mp hle

/-- The rows match when all of both is matched. -/
lemma forall₂_iff_matchedLength :
    List.Forall₂ (fun e a => tokensMatch options e a = true) expected actual ↔
      matchedLength options expected actual = expected.length ∧
        matchedLength options expected actual = actual.length := by
  induction expected generalizing actual with
  | nil => cases actual <;> simp [matchedLength]
  | cons e expected ih =>
    cases actual with
    | nil => simp [matchedLength]
    | cons a actual =>
      by_cases hmatch : tokensMatch options e a = true
      · simp [matchedLength_cons, hmatch, ih]
      · simp [matchedLength_cons, hmatch]

/-- The tokens at the position where the rows part decide the finding. -/
lemma compareRows_eq (position : Nat) :
    compareRows options position expected actual =
      match expected[matchedLength options expected actual]?,
        actual[matchedLength options expected actual]? with
      | none, none => .equal (position + matchedLength options expected actual)
      | some e, none => .earlyEnd (position + matchedLength options expected actual) e
      | none, some a => .additional (position + matchedLength options expected actual) a
      | some e, some a => .mismatch (position + matchedLength options expected actual) e a := by
  induction expected generalizing actual position with
  | nil => cases actual <;> simp [compareRows, matchedLength]
  | cons e expected ih =>
    cases actual with
    | nil => simp [compareRows, matchedLength]
    | cons a actual =>
      by_cases hmatch : tokensMatch options e a = true
      · simp [compareRows, matchedLength_cons, hmatch, ih, Nat.add_assoc, Nat.add_comm 1]
      · simp [compareRows, matchedLength_cons, hmatch]

end

/-! ### Sessions whose streams can be read -/

/-- The tokens that are still to be read. -/
def TokenReader.tokens (r : TokenReader) : List String :=
  r.words.map Utf8.decodeLossy

namespace Session

/-- Whether the streams are read from different sources. -/
def IsSeparate (s : Session) : Prop :=
  Function.Injective s.origin.get

lemma reader_setReader_self (s : Session) (stream : Stream) (r : TokenReader) :
    (s.setReader stream r).reader stream = r := by
  simp [reader, setReader]

lemma reader_setReader_of_ne {s : Session} (h : s.IsSeparate) {stream other : Stream}
    (hne : other ≠ stream) (r : TokenReader) :
    (s.setReader stream r).reader other = s.reader other := by
  simp [reader, setReader, hne, h.ne hne]

/-- The first token of a stream that can be read is taken. -/
lemma nextToken_eq {s : Session} {stream : Stream} (hsound : (s.reader stream).IsSound) :
    ∃ r : TokenReader, r.IsSound ∧ r.tokens = (s.reader stream).tokens.tail ∧
      s.nextToken stream = (.ok (s.reader stream).tokens.head?, s.setReader stream r) := by
  obtain ⟨hanswer, hwords, hsound'⟩ := (s.reader stream).next_eq hsound
  refine ⟨(s.reader stream).next.2, hsound', ?_, ?_⟩
  · rw [TokenReader.tokens, TokenReader.tokens, hwords, List.map_tail]
  · rw [nextToken, TokenReader.tokens, List.head?_map]
    generalize (s.reader stream).next = answer at hanswer ⊢
    obtain ⟨result, r⟩ := answer
    obtain rfl : result = _ := hanswer
    rfl

section

variable (test correct solution : List UInt8)

lemma isSeparate_ofBytes : (ofBytes test correct solution).IsSeparate := by
  intro stream stream' h
  cases stream <;> cases stream' <;> first | rfl | cases h

lemma reader_ofBytes (stream : Stream) :
    (ofBytes test correct solution).reader stream =
      { source := Delivery.ofBytes 8191
          ((⟨test, correct, solution⟩ : PerStream (List UInt8)).get stream) } := by
  cases stream <;> rfl

lemma isSound_ofBytes (stream : Stream) :
    ((ofBytes test correct solution).reader stream).IsSound := by
  intro cause
  rw [reader_ofBytes]
  exact Delivery.failed_notMem_ofBytes _ _ cause

/-- The words of the streams are the runs of their bytes. -/
lemma words_ofBytes (stream : Stream) :
    ((ofBytes test correct solution).reader stream).words =
      Text.runs Text.isSeparatorByte
        ((⟨test, correct, solution⟩ : PerStream (List UInt8)).get stream) := by
  rw [reader_ofBytes, TokenReader.words, TokenReader.remaining, List.nil_append,
    Delivery.content_ofBytes]

lemma tokens_ofBytes (stream : Stream) :
    ((ofBytes test correct solution).reader stream).tokens =
      (Text.runs Text.isSeparatorByte
        ((⟨test, correct, solution⟩ : PerStream (List UInt8)).get stream)).map
          Utf8.decodeLossy := by
  rw [TokenReader.tokens, words_ofBytes]

end

/-- Whether these tokens are what is left of the two answers. -/
structure Offers (s : Session) (expected actual : List String) : Prop where
  separate : s.IsSeparate
  correctSound : (s.reader .correct).IsSound
  solutionSound : (s.reader .solution).IsSound
  correct : (s.reader .correct).tokens = expected
  solution : (s.reader .solution).tokens = actual

/-- Reading a token of both answers leaves the test and the comments as they are. -/
lemma Offers.next {s : Session} {expected actual : List String} (h : s.Offers expected actual) :
    ∃ s₁ s₂ : Session, s.nextToken .correct = (.ok expected.head?, s₁) ∧
      s₁.nextToken .solution = (.ok actual.head?, s₂) ∧
      s₂.Offers expected.tail actual.tail ∧ s₂.reader .test = s.reader .test ∧
      s₂.comments = s.comments := by
  obtain ⟨r, hr, htokens, hnext⟩ := nextToken_eq h.correctSound
  have hsolution : (s.setReader .correct r).reader .solution = s.reader .solution :=
    reader_setReader_of_ne h.separate (by decide) r
  have hseparate : (s.setReader .correct r).IsSeparate := h.separate
  obtain ⟨r', hr', htokens', hnext'⟩ :=
    nextToken_eq (s := s.setReader .correct r) (hsolution ▸ h.solutionSound)
  have hcorrect : ((s.setReader .correct r).setReader .solution r').reader .correct = r :=
    (reader_setReader_of_ne hseparate (by decide) r').trans (reader_setReader_self s .correct r)
  rw [h.correct] at htokens hnext
  rw [hsolution, h.solution] at htokens' hnext'
  refine ⟨_, _, hnext, hnext', ⟨h.separate, ?_, ?_, ?_, ?_⟩, ?_, rfl⟩
  · rwa [hcorrect]
  · rwa [reader_setReader_self]
  · rwa [hcorrect]
  · rwa [reader_setReader_self]
  · rw [reader_setReader_of_ne hseparate (by decide), reader_setReader_of_ne h.separate (by decide)]

end Session

/-! ### The walk -/

/-- What the walk makes of the next two tokens. -/
lemma walkTokens_of_next (options : CompareOptions) (position : Nat) {s s₁ s₂ : Session}
    {expected actual : Option String} :
    s.nextToken .correct = (.ok expected, s₁) → s₁.nextToken .solution = (.ok actual, s₂) →
      walkTokens options position s =
        match expected, actual with
        | none, none => (Finding.equal position).conclude s₂
        | some expected, none => (Finding.earlyEnd position expected).conclude s₂
        | none, some actual => (Finding.additional position actual).conclude s₂
        | some expected, some actual =>
          if tokensMatch options expected actual then walkTokens options (position + 1) s₂
          else (Finding.mismatch position expected actual).conclude s₂ := by
  intro h h₁
  rw [walkTokens]
  split
  · rename_i hstop
    cases hstop.symm.trans h
  · rename_i hnext
    cases hnext.symm.trans h
    split
    · rename_i hstop
      cases hstop.symm.trans h₁
    · rename_i hnext'
      cases hnext'.symm.trans h₁
      cases expected <;> cases actual <;> rfl

/-- The walk compares the rows that are left. -/
lemma walkTokens_eq (options : CompareOptions) (position : Nat) {s : Session}
    {expected actual : List String} (h : s.Offers expected actual) :
    ∃ s' : Session, s'.reader .test = s.reader .test ∧ s'.comments = s.comments ∧
      walkTokens options position s =
        (compareRows options position expected actual).conclude s' := by
  induction expected generalizing actual position s with
  | nil =>
    obtain ⟨s₁, s₂, hnext, hnext', -, htest, hcomments⟩ := h.next
    have hwalk := walkTokens_of_next options position hnext hnext'
    cases actual <;> exact ⟨s₂, htest, hcomments, hwalk⟩
  | cons e expected ih =>
    obtain ⟨s₁, s₂, hnext, hnext', hoffers, htest, hcomments⟩ := h.next
    have hwalk := walkTokens_of_next options position hnext hnext'
    cases actual with
    | nil => exact ⟨s₂, htest, hcomments, hwalk⟩
    | cons a actual =>
      by_cases hmatch : tokensMatch options e a = true
      · obtain ⟨s', htest', hcomments', heq⟩ := ih (position + 1) hoffers
        refine ⟨s', htest'.trans htest, hcomments'.trans hcomments, ?_⟩
        rw [hwalk, compareRows, if_pos hmatch]
        exact (if_pos hmatch).trans heq
      · refine ⟨s₂, htest, hcomments, ?_⟩
        rw [hwalk, compareRows, if_neg hmatch]
        exact if_neg hmatch

/-- Comments leave the streams as they are, and what they add depends on the channel alone. -/
lemma foldl_comment (texts : List String) {s s' : Session} (hcomments : s'.comments = s.comments) :
    (∀ stream, (texts.foldl Session.comment s').reader stream = s'.reader stream) ∧
      (texts.foldl Session.comment s').comments = (texts.foldl Session.comment s).comments := by
  induction texts generalizing s s' with
  | nil => exact ⟨fun _ => rfl, hcomments⟩
  | cons text texts ih =>
    have hnext : (s'.comment text).comments = (s.comment text).comments := by
      simp only [Session.comment, hcomments]
    exact ih hnext

/-! ### The verdict -/

section

variable (options : CompareOptions) (expected actual : List String)

/-- The four ways in which two rows can part at a position. -/
lemma compareRows_cases (position : Nat)
    (hposition : position = matchedLength options expected actual) :
    (position = expected.length ∧ position = actual.length ∧
        compareRows options 0 expected actual = .equal position) ∨
      (∃ e, expected[position]? = some e ∧ position = actual.length ∧
        compareRows options 0 expected actual = .earlyEnd position e) ∨
      (∃ a, position = expected.length ∧ actual[position]? = some a ∧
        compareRows options 0 expected actual = .additional position a) ∨
      ∃ e a, expected[position]? = some e ∧ actual[position]? = some a ∧
        compareRows options 0 expected actual = .mismatch position e a := by
  obtain ⟨hexpected, hactual⟩ := matchedLength_le options expected actual
  have heq := compareRows_eq options expected actual 0
  rw [← hposition] at hexpected hactual heq
  rw [Nat.zero_add] at heq
  have hend : ∀ row : List String, position ≤ row.length → row[position]? = none →
      position = row.length := by
    intro row hle hnone
    exact Nat.le_antisymm hle (List.getElem?_eq_none_iff.mp hnone)
  cases he : expected[position]? with
  | none =>
    cases ha : actual[position]? with
    | none => exact .inl ⟨hend _ hexpected he, hend _ hactual ha, by rw [heq, he, ha]⟩
    | some a => exact .inr (.inr (.inl ⟨a, hend _ hexpected he, rfl, by rw [heq, he, ha]⟩))
  | some e =>
    cases ha : actual[position]? with
    | none => exact .inr (.inl ⟨e, rfl, hend _ hactual ha, by rw [heq, he, ha]⟩)
    | some a => exact .inr (.inr (.inr ⟨e, a, rfl, rfl, by rw [heq, he, ha]⟩))

end

/-- **The verdict of the token checker.** On streams that can be read it is never a rejection, and
the test is left alone. The answer is right exactly when the two rows of tokens are of one length
and match in pairs; otherwise the comments give the number of tokens at the front that match in
pairs, and whether the answer ends there, or the correct one does, or neither. -/
theorem checkTokens_finding (options : CompareOptions) {s : Session} (hseparate : s.IsSeparate)
    (hcorrect : (s.reader .correct).IsSound) (hsolution : (s.reader .solution).IsSound) :
    let expected := (s.reader .correct).tokens
    let actual := (s.reader .solution).tokens
    let matched := matchedLength options expected actual
    let allMatch := List.Forall₂ (fun e a => tokensMatch options e a = true) expected actual
    ∃ finding : Finding,
      (checkTokens options s).1 = .ok finding.outcome ∧
      (checkTokens options s).2.comments = (finding.comments.foldl Session.comment s).comments ∧
      (checkTokens options s).2.reader .test = s.reader .test ∧
      ((checkTokens options s).1 = .ok .ok ↔ allMatch) ∧
      (∀ count, finding = .equal count ↔ allMatch ∧ count = expected.length) ∧
      (∀ position e, finding = .earlyEnd position e ↔
        position = matched ∧ position = actual.length ∧ expected[position]? = some e) ∧
      (∀ position a, finding = .additional position a ↔
        position = matched ∧ position = expected.length ∧ actual[position]? = some a) ∧
      (∀ position e a, finding = .mismatch position e a ↔
        position = matched ∧ expected[position]? = some e ∧ actual[position]? = some a) := by
  intro expected actual matched allMatch
  obtain ⟨s', htest, hcomments, hwalk⟩ :=
    walkTokens_eq options 0 ⟨hseparate, hcorrect, hsolution, rfl, rfl⟩
  obtain ⟨hreader, hchannel⟩ :=
    foldl_comment (compareRows options 0 expected actual).comments hcomments
  have hall : allMatch ↔ matched = expected.length ∧ matched = actual.length :=
    forall₂_iff_matchedLength options expected actual
  refine ⟨compareRows options 0 expected actual, ?_, ?_, ?_, ?_⟩
  · rw [checkTokens, hwalk]
    rfl
  · rw [checkTokens, hwalk]
    exact hchannel
  · rw [checkTokens, hwalk]
    exact (hreader .test).trans htest
  rw [checkTokens, hwalk, Finding.conclude]
  rcases compareRows_cases options expected actual matched rfl with
    ⟨he, ha, heq⟩ | ⟨e, he, ha, heq⟩ | ⟨a, he, ha, heq⟩ | ⟨e, a, he, ha, heq⟩
  -- the rows part in one way, and what the other ways need is false then
  all_goals
    simp only [heq, Finding.outcome, hall]
    refine ⟨?_, ?_, ?_, ?_, ?_⟩ <;> grind

/-- An answer that ends after the first of two tokens. -/
theorem checkTokens_finding_earlyEnd :
    let s := Session.ofBytes [] (Utf8.encode "1 2") (Utf8.encode "\n1\n")
    s.IsSeparate ∧ (s.reader .correct).IsSound ∧ (s.reader .solution).IsSound ∧
      (checkTokens {} s).1 = .ok .wrongAnswer ∧
      (checkTokens {} s).2.comments.text =
        "error: early EOF in actual answer on position 1\nnote: next expected token was 2\n" := by
  intro s
  have hseparate := Session.isSeparate_ofBytes [] (Utf8.encode "1 2") (Utf8.encode "\n1\n")
  have hsound := Session.isSound_ofBytes [] (Utf8.encode "1 2") (Utf8.encode "\n1\n")
  have hexpected : (s.reader .correct).tokens = ["1", "2"] := by
    rw [Session.tokens_ofBytes]
    decide +kernel
  have hactual : (s.reader .solution).tokens = ["1"] := by
    rw [Session.tokens_ofBytes]
    decide +kernel
  obtain ⟨finding, hresult, hcomments, -, -, -, hearly, -⟩ :=
    checkTokens_finding {} hseparate (hsound .correct) (hsound .solution)
  obtain rfl : finding = .earlyEnd 1 "2" := by
    rw [hearly, hexpected, hactual]
    decide +kernel
  refine ⟨hseparate, hsound .correct, hsound .solution, hresult, ?_⟩
  rw [hcomments]
  decide +kernel

end Jury.Checker
