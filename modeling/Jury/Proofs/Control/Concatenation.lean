import Jury.Proofs.Control.Torn

/-!
# Streams one after the other

A stream that is read cleanly and ends with a line can be followed by any other: its messages are
read first, and then the other stream is read as if it stood alone (`decode_append`). Each message
takes the lines that its own counts announce, no more and no fewer, so where the last one is
complete nothing is known of the next; and a line that has ended is not changed by what follows.
-/

namespace Jury.Control

/-- The texts of lines do not depend on the bytes that were counted before. -/
lemma Line.texts_allFrom (size size' : Nat) (held bytes : List UInt8) :
    (allFrom size held bytes).map (·.text) = (allFrom size' held bytes).map (·.text) := by
  rw [texts_allFrom_eq, texts_allFrom_eq]

namespace Transcript

/-- Behind lines that end cleanly, reading begins anew. -/
lemma ofLines_append {block : Block} {lines : List Line}
    (hclean : (ofLines block lines).fault = none) (rest : List Line) :
    ofLines block (lines ++ rest) =
      (ofLines .idle rest).after (ofLines block lines).responses := by
  induction lines generalizing block with
  | nil =>
    -- only where no message is unfinished may a stream end
    have hidle : block = .idle := by
      by_contra hne
      obtain ⟨fault, hfault⟩ := Block.exists_endFault hne
      cases hfault.symm.trans hclean
    rw [hidle]
    rfl
  | cons line lines ih =>
    cases hfeed : block.feedLine line with
    | error fault =>
      rw [ofLines, hfeed] at hclean
      cases hclean
    | ok read =>
      rw [ofLines_cons_ok hfeed] at hclean
      rw [List.cons_append, ofLines_cons_ok hfeed, ofLines_cons_ok hfeed, ih hclean, after_after]
      rfl

/-- **Reading is compositional.** Behind a stream that is empty or ends with a line feed and that is
read cleanly, any stream is read as it is alone: the same messages follow, and the end is the same,
clean or with the same fault. -/
theorem decode_append {first : List UInt8} (hline : EndsWithLine first)
    (hclean : (decode first).fault = none) (rest : List UInt8) :
    decode (first ++ rest) =
      ⟨(decode first).responses ++ (decode rest).responses, (decode rest).fault⟩ := by
  obtain ⟨size, hlines⟩ := Line.all_append hline rest
  have hrest : ofLines .idle (Line.allFrom size [] rest) = decode rest :=
    ofLines_congr .idle (Line.texts_allFrom size 0 [] rest)
  rw [decode, hlines, ofLines_append hclean, hrest]
  rfl

/-- A final message without entries is followed by one that lacks an entry. -/
theorem decode_append_unfinished :
    let first := Utf8.encode "RUN 1 1\n\nDONE 5 0\n0\n0\n\n"
    let rest := Utf8.encode "LIVE-SCORE 7\nDONE 1 1\n2\n1 Accepted OK 1"
    EndsWithLine first ∧ (decode first).fault = none ∧
      decode (first ++ rest) =
        ⟨[.test 1 true, .finish 5 false {}, .liveScore 7],
          some (.protocol (.unexpectedEnd "test entry"))⟩ := by
  intro first rest
  have hline : EndsWithLine first := .inr ⟨first.dropLast, by decide +kernel⟩
  have hclean : (decode first).fault = none := by decide +kernel
  refine ⟨hline, hclean, ?_⟩
  rw [decode_append hline hclean rest]
  decide +kernel

end Transcript

end Jury.Control
