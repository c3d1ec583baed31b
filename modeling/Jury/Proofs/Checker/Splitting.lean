import Jury.Checker.TokenReader
import Jury.Proofs.Text.Fields

/-!
# Reading a stream is splitting its bytes

A reader that is asked for tokens and for the end of its stream answers as if it held the maximal
runs of all bytes that are still to be read: asking for a token takes the first run, and asking for
the end takes none (`answers_eq_splitting`). How the bytes are cut into deliveries, and where
reading is interrupted, makes no difference. The invariant is that a token that was read in part
and the bytes to come have the runs of the whole (`runsFrom_of_splitToken`).
-/

namespace Jury.Checker

open Jury.Text (isSeparatorByte runs runsFrom)

/-! ### What is still to be read -/

/-- The bytes that a delivery brings. -/
def Delivery.content : Delivery → List UInt8
  | bytes first rest => first :: rest
  | interrupted => []
  | failed _ => []

/-- Reading a byte string in gulps brings the byte string. -/
lemma Delivery.content_ofBytes (gulp : Nat) (input : List UInt8) :
    (Delivery.ofBytes gulp input).flatMap Delivery.content = input := by
  fun_induction Delivery.ofBytes gulp input with
  | case1 => rfl
  | case2 b rest ih =>
    rw [List.flatMap_cons, ih, content, List.cons_append, List.take_append_drop]

lemma Delivery.failed_notMem_ofBytes (gulp : Nat) (input : List UInt8) (cause : IoFault) :
    .failed cause ∉ Delivery.ofBytes gulp input := by
  fun_induction Delivery.ofBytes gulp input with
  | case1 => exact List.not_mem_nil
  | case2 b rest ih => simp [ih]

namespace TokenReader

/-- Whether reading never fails. -/
def IsSound (r : TokenReader) : Prop :=
  ∀ cause, .failed cause ∉ r.source

/-- The bytes at hand and to come. -/
def remaining (r : TokenReader) : List UInt8 :=
  r.held ++ r.source.flatMap Delivery.content

/-- The maximal runs of bytes other than separators that are still to be read. -/
def words (r : TokenReader) : List (List UInt8) :=
  runs isSeparatorByte r.remaining

end TokenReader

/-! ### Runs of a part and the rest -/

/-- A run that a separator ends is the first one of the whole. -/
lemma runsFrom_of_splitToken {token bytes run rest : List UInt8}
    (h : splitToken token bytes = (run, true, rest)) (more : List UInt8) :
    run ≠ [] ∧
      runsFrom isSeparatorByte token (bytes ++ more) =
        run.reverse :: runs isSeparatorByte (rest ++ more) := by
  fun_induction splitToken token bytes with
  | case1 token => simp at h
  | case2 token b bytes hsep hempty ih =>
    obtain rfl : token = [] := List.isEmpty_iff.mp hempty
    simpa [runsFrom, hsep] using ih h
  | case3 token b bytes hsep hempty =>
    obtain ⟨rfl, rfl⟩ : token = run ∧ bytes = rest := by simpa using h
    simp [runsFrom, runs, hsep, hempty, List.isEmpty_iff.not.mp hempty]
  | case4 token b bytes hsep ih => simpa [runsFrom, hsep] using ih h

/-- A run that is not ended goes on in what is read next. -/
lemma runsFrom_of_splitToken_open {token bytes run rest : List UInt8}
    (h : splitToken token bytes = (run, false, rest)) (more : List UInt8) :
    runsFrom isSeparatorByte token (bytes ++ more) = runsFrom isSeparatorByte run more := by
  fun_induction splitToken token bytes with
  | case1 token =>
    obtain ⟨rfl, -⟩ : token = run ∧ [] = rest := by simpa using h
    rfl
  | case2 token b bytes hsep hempty ih =>
    obtain rfl : token = [] := List.isEmpty_iff.mp hempty
    simpa [runsFrom, hsep] using ih h
  | case3 token b bytes hsep hempty => simp at h
  | case4 token b bytes hsep ih => simpa [runsFrom, hsep] using ih h

/-! ### One question -/

/-- The runs that are left to a reader of which part of the next token was read already. -/
lemma nextFrom_eq (token held : List UInt8) {source : List Delivery}
    (hsound : ∀ cause, .failed cause ∉ source) :
    ∃ r : TokenReader, r.IsSound ∧
      r.words = (runsFrom isSeparatorByte token
        (held ++ source.flatMap Delivery.content)).tail ∧
      TokenReader.nextFrom token held source =
        (.ok ((runsFrom isSeparatorByte token
          (held ++ source.flatMap Delivery.content)).head?.map Utf8.decodeLossy), r) := by
  fun_induction TokenReader.nextFrom token held source with
  | case1 source token held run rest h =>
    obtain ⟨hne, hruns⟩ := runsFrom_of_splitToken h (source.flatMap Delivery.content)
    refine ⟨⟨rest, source⟩, hsound, ?_, ?_⟩
    · rw [hruns]
      rfl
    · rw [hruns]
      simp [finishToken, hne]
  | case2 token held run rest h =>
    have hruns := runsFrom_of_splitToken_open h []
    rw [List.flatMap_nil, hruns, runsFrom]
    refine ⟨⟨[], []⟩, fun cause => List.not_mem_nil, ?_, ?_⟩
    · by_cases hrun : run = [] <;>
        simp [hrun, TokenReader.words, TokenReader.remaining, runs, runsFrom]
    · by_cases hrun : run = [] <;> simp [finishToken, hrun]
  | case3 token held run _ h first rest source ih =>
    have hruns := runsFrom_of_splitToken_open h
      ((Delivery.bytes first rest :: source).flatMap Delivery.content)
    rw [hruns]
    exact ih fun cause hmem => hsound cause (List.mem_cons_of_mem _ hmem)
  | case4 token held run _ h source ih =>
    have hruns := runsFrom_of_splitToken_open h
      ((Delivery.interrupted :: source).flatMap Delivery.content)
    rw [hruns]
    exact ih fun cause hmem => hsound cause (List.mem_cons_of_mem _ hmem)
  | case5 token held run _ h cause source => exact absurd List.mem_cons_self (hsound cause)

lemma isAtEndFrom_eq (held : List UInt8) {source : List Delivery}
    (hsound : ∀ cause, .failed cause ∉ source) :
    ∃ r : TokenReader, r.IsSound ∧
      r.words = runs isSeparatorByte (held ++ source.flatMap Delivery.content) ∧
      TokenReader.isAtEndFrom held source =
        (.ok (runs isSeparatorByte (held ++ source.flatMap Delivery.content)).isEmpty, r) := by
  fun_induction TokenReader.isAtEndFrom held source with
  | case1 held h =>
    rw [List.flatMap_nil, Text.runs_append_of_all h]
    exact ⟨⟨[], []⟩, fun cause => List.not_mem_nil, rfl, rfl⟩
  | case2 held h first rest source ih =>
    rw [Text.runs_append_of_all h]
    exact ih fun cause hmem => hsound cause (List.mem_cons_of_mem _ hmem)
  | case3 held h source ih =>
    rw [Text.runs_append_of_all h]
    exact ih fun cause hmem => hsound cause (List.mem_cons_of_mem _ hmem)
  | case4 held h cause source => exact absurd List.mem_cons_self (hsound cause)
  | case5 source held h =>
    have hne : runs isSeparatorByte (held ++ source.flatMap Delivery.content) ≠ [] := by
      intro hnil
      rw [runs, Text.runsFrom_eq_nil_iff, List.all_append, Bool.and_eq_true] at hnil
      exact h hnil.2.1
    refine ⟨⟨held, source⟩, hsound, rfl, ?_⟩
    simp [hne]

namespace TokenReader

/-- Asking for a token takes the first run. -/
theorem next_eq {r : TokenReader} (hsound : r.IsSound) :
    r.next.1 = .ok (r.words.head?.map Utf8.decodeLossy) ∧
      r.next.2.words = r.words.tail ∧ r.next.2.IsSound := by
  obtain ⟨r', hsound', hwords, heq⟩ := nextFrom_eq [] r.held hsound
  rw [next, heq]
  exact ⟨rfl, hwords, hsound'⟩

/-- Asking for the end takes no run. -/
theorem isAtEnd_eq {r : TokenReader} (hsound : r.IsSound) :
    r.isAtEnd.1 = .ok r.words.isEmpty ∧ r.isAtEnd.2.words = r.words ∧ r.isAtEnd.2.IsSound := by
  obtain ⟨r', hsound', hwords, heq⟩ := isAtEndFrom_eq r.held hsound
  rw [isAtEnd, heq]
  exact ⟨rfl, hwords, hsound'⟩

end TokenReader

/-! ### All questions -/

/-- What can be asked of a stream. -/
inductive Query where
  | next
  | atEnd
  deriving DecidableEq, Repr

inductive Reply where
  | token (token : Option String)
  | atEnd (isAtEnd : Bool)
  deriving DecidableEq, Repr

def TokenReader.ask (r : TokenReader) : Query → Except IoFault Reply × TokenReader
  | .next => (r.next.1.map .token, r.next.2)
  | .atEnd => (r.isAtEnd.1.map .atEnd, r.isAtEnd.2)

/-- The answers of a reader that is asked one question after the other. -/
def TokenReader.answers (r : TokenReader) : List Query → List (Except IoFault Reply)
  | [] => []
  | query :: queries => (r.ask query).1 :: (r.ask query).2.answers queries

namespace Splitting

/-- What is answered from a list of runs, and the list after it. -/
def ask (words : List (List UInt8)) : Query → Reply × List (List UInt8)
  | .next => (.token (words.head?.map Utf8.decodeLossy), words.tail)
  | .atEnd => (.atEnd words.isEmpty, words)

def answers (words : List (List UInt8)) : List Query → List Reply
  | [] => []
  | query :: queries => (ask words query).1 :: answers (ask words query).2 queries

end Splitting

/-- A reader answers as its runs do, and keeps to them. -/
lemma TokenReader.ask_eq {r : TokenReader} (hsound : r.IsSound) (query : Query) :
    (r.ask query).1 = .ok (Splitting.ask r.words query).1 ∧
      (r.ask query).2.words = (Splitting.ask r.words query).2 ∧ (r.ask query).2.IsSound := by
  cases query with
  | next =>
    obtain ⟨hanswer, hwords, hsound'⟩ := r.next_eq hsound
    exact ⟨by rw [ask, hanswer]; rfl, hwords, hsound'⟩
  | atEnd =>
    obtain ⟨hanswer, hwords, hsound'⟩ := r.isAtEnd_eq hsound
    exact ⟨by rw [ask, hanswer]; rfl, hwords, hsound'⟩

lemma TokenReader.answers_eq {r : TokenReader} (hsound : r.IsSound) (queries : List Query) :
    r.answers queries = (Splitting.answers r.words queries).map .ok := by
  induction queries generalizing r with
  | nil => rfl
  | cons query queries ih =>
    obtain ⟨hanswer, hwords, hsound'⟩ := r.ask_eq hsound query
    rw [answers, Splitting.answers, List.map_cons, hanswer, ih hsound', hwords]

/-- **Reading a stream is splitting its bytes.** However a byte string is cut into deliveries, and
wherever reading it is interrupted, the answers are those of a list that holds the maximal runs of
bytes other than separators of the whole. -/
theorem answers_eq_splitting (input : List UInt8) (source : List Delivery)
    (hcut : source.flatMap Delivery.content = input) (hsound : ∀ cause, .failed cause ∉ source)
    (queries : List Query) :
    ({ source } : TokenReader).answers queries =
      (Splitting.answers (runs isSeparatorByte input) queries).map .ok := by
  have h := TokenReader.answers_eq (r := { source }) hsound queries
  rwa [TokenReader.words, TokenReader.remaining, List.nil_append, hcut] at h

/-- A token in three deliveries; the separator after it is delivered with it. -/
theorem answers_eq_splitting_interrupted :
    let input : List UInt8 := [0x20, 0x61, 0x62, 0x63, 0x0A, 0x64]
    let source : List Delivery := [.interrupted, .bytes 0x20 [0x61], .interrupted, .bytes 0x62 [],
      .bytes 0x63 [0x0A], .bytes 0x64 []]
    let queries : List Query := [.atEnd, .next, .atEnd, .next, .next, .next, .atEnd]
    source.flatMap Delivery.content = input ∧ (∀ cause, .failed cause ∉ source) ∧
      ({ source } : TokenReader).answers queries =
        [.ok (.atEnd false), .ok (.token (some "abc")), .ok (.atEnd false),
          .ok (.token (some "d")), .ok (.token none), .ok (.token none), .ok (.atEnd true)] := by
  intro input source queries
  have hcut : source.flatMap Delivery.content = input := rfl
  have hsound : ∀ cause, .failed cause ∉ source := by
    intro cause hmem
    simp [source] at hmem
  refine ⟨hcut, hsound, ?_⟩
  rw [answers_eq_splitting input source hcut hsound queries]
  decide +kernel

end Jury.Checker
