import Jury.Control.Notification
import Jury.Proofs.Control.Fields
import Jury.Proofs.Control.Lines

/-!
# The round trip of results

What a harness tells a valuer, the number of tests and a line for each result, is read back as it
was told exactly when every status code can end a line: when it is a token and its last character
is not a blank (`isReadAs_account_iff`). The reader trims lines of every blank, and it splits them
at separators only; a status code that passes the check stands both.
-/

namespace Jury.Control

open Jury.Text (fields trim IsToken IsSolid isBlank isSeparator isBlank_of_isSeparator)

/-! ### What is told -/

/-- What a harness tells a valuer: the number of tests, and results. -/
def account (tests : UInt32) (results : List Notification) : String :=
  toString tests ++ "\n" ++ String.join (results.map Notification.render)

/-- Whether a byte string is read as a number of tests and results: the first line is the number,
each further line a result, and there are no more lines. -/
def IsReadAs (bytes : List UInt8) (tests : UInt32) (results : List Notification) : Prop :=
  ∃ (first : String) (rest : List String),
    (Line.all bytes).map (·.text) = some first :: rest.map some ∧
    Text.word? first = some tests ∧ rest.map Notification.parse = results.map .ok

/-- Whether a status code can stand at the end of a line: it is a token and does not end in a
blank. -/
def CanEndLine (code : String) : Prop :=
  IsToken code ∧ ∀ c, code.toList.getLast? = some c → isBlank c = false

lemma canEndLine_of_isSolid {code : String} (h : IsSolid code) : CanEndLine code := by
  constructor
  · exact h.isToken
  · intro c hc
    exact h.2 c (List.mem_of_getLast? hc)

/-- Such a code may begin with blanks, but it ends with solid text. -/
lemma CanEndLine.exists_end {code : String} (h : CanEndLine code) :
    ∃ front last, code = front ++ last ∧ IsSolid last := by
  rcases List.eq_nil_or_concat code.toList with hnil | ⟨front, c, hchars⟩
  · exact absurd (String.toList_eq_nil_iff.mp hnil) h.1.1
  · rw [List.concat_eq_append] at hchars
    refine ⟨String.ofList front, String.singleton c, ?_, ?_⟩
    · apply String.toList_injective
      simp [hchars]
    · simpa [IsSolid] using h.2 c (by rw [hchars, List.getLast?_concat])

/-! ### The lines that are written -/

namespace Notification

/-- The words of a result's line. -/
def words (n : Notification) : List String :=
  [toString n.test, n.kind.name, n.statusCode]

lemma render_eq_spaced (n : Notification) : n.render = spaced n.words ++ "\n" := by
  simp [render, words, spaced, String.intercalate_cons_cons, String.append_assoc]

/-- A result is read back from its words. -/
lemma parse_words {n : Notification} (h : IsToken n.statusCode) :
    parse (spaced n.words) = .ok n := by
  have hwords : ∀ t ∈ n.words, IsToken t := by
    simpa [words] using ⟨(isSolid_toString_word n.test).isToken, (isSolid_name n.kind).isToken, h⟩
  rw [parse, spaced, Text.fields_intercalate hwords, words]
  simp only [wordField_toString, kindField_name]
  rfl

/-- The line of a result is one that a reader keeps. -/
lemma isLine_words {n : Notification} (h : CanEndLine n.statusCode) : IsLine (spaced n.words) := by
  obtain ⟨front, last, hcode, hlast⟩ := h.exists_end
  have hline : spaced n.words =
      toString n.test ++ (" " ++ n.kind.name ++ " " ++ front) ++ last := by
    simp only [words, spaced, String.intercalate_cons_cons, String.intercalate_singleton, hcode,
      String.append_assoc]
  have hkind := (isSolid_name n.kind).isToken.lf_notMem
  have hlf := h.1.lf_notMem
  rw [hcode, String.toList_append, List.mem_append, not_or] at hlf
  rw [hline]
  apply IsLine.of_ends (isSolid_toString_word n.test) hlast
  simp [hkind, hlf.1]

end Notification

/-- What is told are lines: the number, and one for each result. -/
lemma account_eq_unlines (tests : UInt32) (results : List Notification) :
    account tests results =
      unlines (toString tests :: results.map fun n => spaced n.words) := by
  rw [account, unlines_cons, unlines, List.map_map, funext Notification.render_eq_spaced]
  rfl

/-! ### The lines that are read -/

/-- The text of a line was trimmed. -/
lemma Line.exists_trim {bytes : List UInt8} {text : String}
    (h : some text ∈ (all bytes).map (·.text)) : ∃ s, text = trim s := by
  rw [texts_all] at h
  obtain ⟨piece, -, hpiece⟩ := List.mem_filterMap.mp h
  rw [textOf?] at hpiece
  cases hdecode : Utf8.decode? piece with
  | none =>
    rw [hdecode] at hpiece
    cases hpiece
  | some s =>
    simp only [hdecode, Option.ite_none_left_eq_some, Option.some.injEq] at hpiece
    exact ⟨s, hpiece.2.symm⟩

/-- The status code of a result that was read from a trimmed line can end a line. -/
lemma Notification.canEndLine_of_parse {s : String} {n : Notification}
    (h : parse (trim s) = .ok n) : CanEndLine n.statusCode := by
  rw [parse] at h
  split at h
  · next test kind code hfields =>
    obtain ⟨_, _, h⟩ := Except.bind_eq_ok_iff.mp h
    obtain ⟨_, _, h⟩ := Except.bind_eq_ok_iff.mp h
    cases h
    have hcode : (fields (trim s)).getLast? = some code := by
      rw [hfields]
      rfl
    have htoken : IsToken code := Text.isToken_of_mem_fields (List.mem_of_getLast? hcode)
    refine ⟨htoken, ?_⟩
    intro c hc
    cases hlast : (trim s).toList.getLast? with
    | none =>
      rw [fields, List.getLast?_eq_none_iff.mp hlast] at hcode
      cases hcode
    | some d =>
      -- the last character of the line separates nothing, so it is the last one of the code
      have hd := Text.isBlank_of_getLast?_trim hlast
      have hsep : isSeparator d = false := by
        by_contra h
        rw [isBlank_of_isSeparator (by simpa using h)] at hd
        cases hd
      have hend := Text.getLast?_of_fields hcode hlast hsep
      exact Option.some.inj (hend.symm.trans hc) ▸ hd
  · cases h

/-! ### The round trip -/

/-- What was told is read back exactly when each status code can end a line. -/
theorem isReadAs_account_iff (tests : UInt32) (results : List Notification) :
    IsReadAs (Utf8.encode (account tests results)) tests results ↔
      ∀ n ∈ results, CanEndLine n.statusCode := by
  constructor
  · rintro ⟨first, rest, hlines, -, hrest⟩ n hn
    have hmem : Except.ok n ∈ rest.map Notification.parse := by
      rw [hrest]
      exact List.mem_map_of_mem hn
    obtain ⟨line, hline, hparse⟩ := List.mem_map.mp hmem
    have htext : some line ∈ (Line.all (Utf8.encode (account tests results))).map (·.text) := by
      rw [hlines]
      exact List.mem_cons_of_mem _ (List.mem_map_of_mem hline)
    obtain ⟨s, rfl⟩ := Line.exists_trim htext
    exact Notification.canEndLine_of_parse hparse
  · intro h
    refine ⟨toString tests, results.map fun n => spaced n.words, ?_, ?_, ?_⟩
    · have hisLine : ∀ line ∈ toString tests :: results.map fun n => spaced n.words,
          IsLine line := by
        rw [List.forall_mem_cons, List.forall_mem_map]
        exact ⟨.of_solid (isSolid_toString_word tests), fun n hn => n.isLine_words (h n hn)⟩
      have hread := Line.all_encode_unlines hisLine []
      rw [List.append_nil, ← account_eq_unlines] at hread
      rw [hread]
      simp [Line.all, Line.allFrom]
    · exact Text.word?_toString tests
    · rw [List.map_map]
      apply List.map_congr_left
      intro n hn
      rw [Function.comp_apply, Notification.parse_words (h n hn).1]

/-- **Results are read back.** What a harness tells a valuer, the number of tests and then results
with status codes that pass the check, is read line by line as that number and exactly these
results, and then there is nothing more. -/
theorem isReadAs_account (tests : UInt32) {results : List Notification}
    (h : ∀ n ∈ results, checkStatusCode n.statusCode = .ok ()) :
    IsReadAs (Utf8.encode (account tests results)) tests results := by
  apply (isReadAs_account_iff tests results).mpr
  intro n hn
  exact canEndLine_of_isSolid (checkStatusCode_eq_ok_iff.mp (h n hn))

/-- Codes of characters that look blank and are not: a zero width space, a byte order mark, and a
vowel separator. -/
theorem isReadAs_account_zeroWidth :
    let results : List Notification :=
      [⟨4294967295, .accepted, "\u200bOK\ufeff"⟩, ⟨0, .internalError, "\u180e"⟩,
        ⟨4294967295, .skipped, "\x00=1e"⟩]
    (∀ n ∈ results, checkStatusCode n.statusCode = .ok ()) ∧
      IsReadAs (Utf8.encode (account 3 results)) 3 results := by
  intro results
  have hcodes : ∀ n ∈ results, checkStatusCode n.statusCode = .ok () := by decide
  exact ⟨hcodes, isReadAs_account 3 hcodes⟩

end Jury.Control
