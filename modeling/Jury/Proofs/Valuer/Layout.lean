import Jury.Proofs.Control.Concatenation
import Jury.Proofs.Valuer.Steps
import Jury.Valuer.Icpc

/-!
# The layout of what is read

Two byte strings differ in layout alone when their lines are the same but for lines of blanks and
for blanks at the ends of lines (`SameButLayout`); so do texts of the same lines with either of the
two customary line ends (`sameButLayout_intercalate`). Both readers keep of a line what
`Line.textOf?` says and go by that alone, so the layout makes no difference to them
(`judge_of_sameButLayout`).
-/

namespace Jury.Control

open Jury.Text (isBlank)
open Line (textOf? textOf?_encode)

/-! ### Layout -/

/-- Whether a text can stand at the end of a line for its layout: blanks, and no line feed. -/
def IsPadding (s : String) : Prop :=
  ∀ c ∈ s.toList, isBlank c = true ∧ c ≠ '\n'

instance (s : String) : Decidable (IsPadding s) :=
  decidable_of_iff (s.toList.all fun c => isBlank c && c != '\n') (by simp [IsPadding])

/-- Whether a line is a text with blanks around it. -/
def Pads (text : String) (line : List UInt8) : Prop :=
  ∃ front back, IsPadding front ∧ IsPadding back ∧ line = Utf8.encode (front ++ text ++ back)

/-- Whether lines differ in layout alone: lines of blanks are inserted and removed, and so are
blanks at the ends of other lines. -/
inductive Relaid : List (List UInt8) → List (List UInt8) → Prop
  | nil : Relaid [] []
  | same {lines lines' : List (List UInt8)} (line : List UInt8) (h : Relaid lines lines') :
      Relaid (line :: lines) (line :: lines')
  | padded {lines lines' : List (List UInt8)} {line line' : List UInt8} {text : String}
      (hline : Pads text line) (hline' : Pads text line') (h : Relaid lines lines') :
      Relaid (line :: lines) (line' :: lines')
  | inserted {lines lines' : List (List UInt8)} {line : List UInt8} (hline : Pads "" line)
      (h : Relaid lines lines') : Relaid lines (line :: lines')
  | removed {lines lines' : List (List UInt8)} {line : List UInt8} (hline : Pads "" line)
      (h : Relaid lines lines') : Relaid (line :: lines) lines'

/-- Whether byte strings differ in layout alone. -/
def SameButLayout (bytes bytes' : List UInt8) : Prop :=
  Relaid (bytes.splitOn 0x0A) (bytes'.splitOn 0x0A)

lemma IsPadding.all_isBlank {s : String} (h : IsPadding s) : s.toList.all isBlank = true := by
  rw [List.all_eq_true]
  intro c hc
  exact (h c hc).1

lemma pads_append {back : String} (text : String) (hback : IsPadding back) :
    Pads text (Utf8.encode (text ++ back)) := by
  refine ⟨"", back, by decide, hback, ?_⟩
  rw [String.empty_append]

lemma pads_self (text : String) : Pads text (Utf8.encode text) := by
  have hpads : Pads text (Utf8.encode (text ++ "")) := pads_append text (by decide)
  rwa [String.append_empty] at hpads

/-- The blanks around a text are not kept. -/
lemma Pads.textOf?_eq {text : String} {line : List UInt8} (h : Pads text line) :
    textOf? line = textOf? (Utf8.encode text) := by
  obtain ⟨front, back, hfront, hback, rfl⟩ := h
  have hfront := hfront.all_isBlank
  have hback := hback.all_isBlank
  rw [textOf?_encode, textOf?_encode, Text.trim_append_of_blank hfront hback]
  simp only [String.toList_append, List.all_append, hfront, hback, Bool.true_and, Bool.and_true]

/-- Lines that differ in layout alone are kept alike. -/
lemma Relaid.texts_eq {lines lines' : List (List UInt8)} (h : Relaid lines lines') :
    lines.filterMap textOf? = lines'.filterMap textOf? := by
  have hblank : textOf? (Utf8.encode "") = none := by
    rw [textOf?_encode]
    rfl
  induction h with
  | nil => rfl
  | same line h ih => rw [List.filterMap_cons, List.filterMap_cons, ih]
  | padded hline hline' h ih =>
    rw [List.filterMap_cons, List.filterMap_cons, hline.textOf?_eq, hline'.textOf?_eq, ih]
  | inserted hline h ih => rw [List.filterMap_cons_none (hline.textOf?_eq.trans hblank), ih]
  | removed hline h ih => rw [List.filterMap_cons_none (hline.textOf?_eq.trans hblank), ih]

lemma SameButLayout.texts_eq {bytes bytes' : List UInt8} (h : SameButLayout bytes bytes') :
    (Line.all bytes).map (·.text) = (Line.all bytes').map (·.text) := by
  rw [Line.texts_all, Line.texts_all]
  exact Relaid.texts_eq h

/-! ### The ends of lines -/

lemma encode_intercalate (separator : String) (texts : List String) :
    Utf8.encode (separator.intercalate texts) =
      (Utf8.encode separator).intercalate (texts.map Utf8.encode) := by
  induction texts with
  | nil => rfl
  | cons text texts ih =>
    cases texts with
    | nil => simp
    | cons next texts =>
      rw [String.intercalate_cons_cons, Utf8.encode_append, Utf8.encode_append, ih]
      simp

/-- The lines of a text that is put together from lines. -/
lemma splitOn_encode_intercalate {texts : List String} (hne : texts ≠ [])
    (hlf : ∀ text ∈ texts, '\n' ∉ text.toList) :
    (Utf8.encode ("\n".intercalate texts)).splitOn 0x0A = texts.map Utf8.encode := by
  have hfeed : Utf8.encode "\n" = [0x0A] := by decide
  rw [encode_intercalate, hfeed]
  apply List.splitOn_intercalate
  · rw [List.forall_mem_map]
    intro text htext
    exact lf_notMem_encode (hlf text htext)
  · simpa using hne

/-- These lines, but with a carriage return at the end of each that another one follows. -/
def withReturns : List String → List String
  | text :: next :: texts => (text ++ "\r") :: withReturns (next :: texts)
  | texts => texts

lemma withReturns_ne_nil {texts : List String} (h : texts ≠ []) : withReturns texts ≠ [] := by
  cases texts with
  | nil => exact absurd rfl h
  | cons text texts => cases texts <;> simp [withReturns]

lemma intercalate_withReturns (texts : List String) :
    "\n".intercalate (withReturns texts) = "\r\n".intercalate texts := by
  induction texts with
  | nil => rfl
  | cons text texts ih =>
    cases texts with
    | nil => rfl
    | cons next texts =>
      obtain ⟨first, rest, hrest⟩ :=
        List.exists_cons_of_ne_nil (withReturns_ne_nil (List.cons_ne_nil next texts))
      rw [hrest] at ih
      have hends : text ++ "\r" ++ "\n" = text ++ "\r\n" := String.append_assoc
      rw [withReturns, hrest, String.intercalate_cons_cons, String.intercalate_cons_cons, ih, hends]

lemma lf_notMem_withReturns {texts : List String} (h : ∀ text ∈ texts, '\n' ∉ text.toList) :
    ∀ text ∈ withReturns texts, '\n' ∉ text.toList := by
  induction texts with
  | nil => exact h
  | cons text texts ih =>
    cases texts with
    | nil => exact h
    | cons next texts =>
      rw [List.forall_mem_cons] at h
      rw [withReturns, List.forall_mem_cons]
      exact ⟨by simpa using h.1, ih h.2⟩

lemma relaid_withReturns (texts : List String) :
    Relaid (texts.map Utf8.encode) ((withReturns texts).map Utf8.encode) := by
  induction texts with
  | nil => exact .nil
  | cons text texts ih =>
    cases texts with
    | nil => exact .same _ .nil
    | cons next texts =>
      exact .padded (pads_self text) (pads_append text (by decide)) ih

/-- Lines with a carriage return and a line feed between each two differ in layout alone from those
with a line feed. -/
lemma sameButLayout_intercalate {texts : List String} (hne : texts ≠ [])
    (hlf : ∀ text ∈ texts, '\n' ∉ text.toList) :
    SameButLayout (Utf8.encode ("\n".intercalate texts))
      (Utf8.encode ("\r\n".intercalate texts)) := by
  rw [SameButLayout, ← intercalate_withReturns, splitOn_encode_intercalate hne hlf,
    splitOn_encode_intercalate (withReturns_ne_nil hne) (lf_notMem_withReturns hlf)]
  exact relaid_withReturns texts

end Jury.Control

namespace Jury.Valuer

open Jury.Control

/-- **Layout makes no difference.** Of two byte strings that differ in layout alone, the same
messages are read, with the same end and the same fault. A session that is judged on them goes the
same way with every policy: the policy is consulted on the same occasions, the session and all that
it writes are the same after each, and the result is the same. -/
theorem judge_of_sameButLayout {bytes bytes' : List UInt8} (h : SameButLayout bytes bytes') :
    Transcript.decode bytes = Transcript.decode bytes' ∧
      ∀ (σ : Type) (policy : Scorer σ) (state : σ) (session : Session),
        (judge Session.answer policy state session bytes).1 =
          (judge Session.answer policy state session bytes').1 := by
  constructor
  · exact Transcript.ofLines_congr .idle h.texts_eq
  · intro σ policy state session
    have hheards : heards bytes = heards bytes' := by
      have htexts := congrArg (List.map fun text => Heard.line text) h.texts_eq
      rw [List.map_map, List.map_map] at htexts
      exact congrArg (· ++ [Heard.ended]) htexts
    rw [judge_eq_judgeUntil, judge_eq_judgeUntil, hheards]

/-- A text with other line ends, lines of blanks, and a no-break space behind a status code. -/
theorem judge_of_sameButLayout_padded :
    let texts := ["2", "1 Accepted OK", "2 Rejected WA"]
    let texts' := ["", "\u2003" ++ "2" ++ "\r", "1 Accepted OK" ++ "\u00a0", "\x0b\u3000",
      "2 Rejected WA" ++ "\r", ""]
    let bytes := Utf8.encode ("\n".intercalate texts)
    let bytes' := Utf8.encode ("\n".intercalate texts')
    let run := (judge Session.answer Icpc.policy Icpc.fresh {} bytes').1
    SameButLayout bytes bytes' ∧
      Transcript.decode bytes' = ⟨[], some (.protocol (.unexpectedResponse "2"))⟩ ∧
      run.session.isFinished = true ∧
      run.session.written .publicComments =
        "solution failed on test 2: (status WA)\n" := by
  intro texts texts' bytes bytes' run
  have hfirst : Pads "2" (Utf8.encode ("\u2003" ++ "2" ++ "\r")) :=
    ⟨"\u2003", "\r", by decide, by decide, rfl⟩
  have hblank : Pads "" (Utf8.encode "\x0b\u3000") :=
    ⟨"", "\x0b\u3000", by decide, by decide, rfl⟩
  have hsame : SameButLayout bytes bytes' := by
    rw [SameButLayout, splitOn_encode_intercalate (by decide) (by decide),
      splitOn_encode_intercalate (by decide) (by decide)]
    refine .inserted (pads_self "") ?_
    refine .padded (pads_self "2") hfirst ?_
    refine .padded (pads_self "1 Accepted OK") (pads_append _ (by decide)) ?_
    refine .inserted hblank ?_
    refine .padded (pads_self "2 Rejected WA") (pads_append _ (by decide)) ?_
    exact .inserted (pads_self "") .nil
  obtain ⟨hdecode, hjudge⟩ := judge_of_sameButLayout hsame
  refine ⟨hsame, ?_, ?_⟩
  · rw [← hdecode]
    decide +kernel
  · have hrun : run = _ := (hjudge _ Icpc.policy Icpc.fresh {}).symm
    rw [hrun]
    decide +kernel

end Jury.Valuer
