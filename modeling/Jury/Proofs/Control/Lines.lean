import Mathlib.Data.List.TakeWhile
import Jury.Control.Line
import Jury.Proofs.Text.Fields
import Jury.Proofs.Text.Utf8

/-!
# Texts made of lines

A text whose lines are already as a reader keeps them is read back as these lines
(`all_encode_unlines`): no line is lost to the reader's trimming, and none is split or joined.
Where a line has ended, what comes behind it does not change the lines before (`all_append`).
-/

namespace Jury.Control

open Jury.Text (trim IsToken IsSolid isBlank)

/-- A line as a reader keeps it: in one piece, trimmed, and not empty. -/
structure IsLine (line : String) : Prop where
  ne_empty : line ≠ ""
  unbroken : '\n' ∉ line.toList
  trimmed : trim line = line

/-- The text of lines that a line feed ends each. -/
def unlines (lines : List String) : String :=
  String.join (lines.map (· ++ "\n"))

@[simp] lemma unlines_nil : unlines [] = "" := rfl

lemma unlines_cons (line : String) (lines : List String) :
    unlines (line :: lines) = line ++ "\n" ++ unlines lines := by
  simp [unlines, String.join_cons]

lemma unlines_append (lines lines' : List String) :
    unlines (lines ++ lines') = unlines lines ++ unlines lines' := by
  simp [unlines, String.join_append]

/-! ### Which texts are lines -/

lemma IsLine.of_solid {s : String} (h : IsSolid s) : IsLine s :=
  ⟨h.1, h.isToken.lf_notMem, Text.trim_solid h⟩

/-- Solid text at both ends makes a line of whatever has no line feed in between. -/
lemma IsLine.of_ends {s t m : String} (hs : IsSolid s) (ht : IsSolid t) (hm : '\n' ∉ m.toList) :
    IsLine (s ++ m ++ t) where
  ne_empty := by simp [hs.1]
  unbroken := by simp [hs.isToken.lf_notMem, hm, ht.isToken.lf_notMem]
  trimmed := Text.trim_append hs ht m

/-- A line of words. -/
def spaced (words : List String) : String :=
  String.intercalate " " words

lemma spaced_ends (first last : String) (middle : List String) :
    spaced (first :: (middle ++ [last])) =
      first ++ (" " ++ String.join (middle.map (· ++ " "))) ++ last := by
  induction middle generalizing first with
  | nil => simp [spaced, String.intercalate_cons_cons, String.append_assoc]
  | cons word middle ih =>
    have hstep : spaced (first :: (word :: middle ++ [last])) =
        first ++ " " ++ spaced (word :: (middle ++ [last])) := by
      rw [spaced, List.cons_append, String.intercalate_cons_cons]
      rfl
    rw [hstep, ih]
    simp [String.append_assoc, String.join_cons]

/-- Tokens with solid ones at both ends make a line. -/
lemma IsLine.of_tokens {first last : String} (middle : List String) (hfirst : IsSolid first)
    (hlast : IsSolid last) (hmiddle : ∀ t ∈ middle, IsToken t) :
    IsLine (spaced (first :: (middle ++ [last]))) := by
  rw [spaced_ends]
  apply IsLine.of_ends hfirst hlast
  simpa using fun t ht => (hmiddle t ht).lf_notMem

/-! ### Reading them -/

lemma lf_notMem_encode {s : String} (h : '\n' ∉ s.toList) : 0x0A ∉ Utf8.encode s := by
  intro hmem
  obtain ⟨c, hc, hb⟩ := List.mem_flatMap.mp hmem
  obtain ⟨-, hcode⟩ := Utf8.eq_of_mem_encodeChar hb (by decide)
  have hlf : c = '\n' := Char.toNat_inj.mp hcode
  exact h (hlf ▸ hc)

lemma Line.allFrom_append (size : Nat) (held : List UInt8) {bytes : List UInt8}
    (h : 0x0A ∉ bytes) (rest : List UInt8) :
    allFrom size held (bytes ++ rest) =
      allFrom (size + bytes.length) (bytes.reverse ++ held) rest := by
  induction bytes generalizing size held with
  | nil => rfl
  | cons b bytes ih =>
    simp only [List.mem_cons, not_or] at h
    rw [List.cons_append, allFrom, if_neg (Ne.symm h.1), ih _ _ h.2]
    simp [Nat.add_assoc, Nat.add_comm 1]

lemma Line.ofBytes?_encode {line : String} (h : IsLine line) (size : Nat) :
    ofBytes? size (Utf8.encode line) = some ⟨some line, size⟩ := by
  have hblank : ¬ line.toList.all isBlank = true := by
    intro hall
    have hdrop : line.toList.dropWhile isBlank = [] := by
      rw [List.dropWhile_eq_nil_iff]
      simpa using hall
    have hempty : trim line = "" := by simp [trim, Text.trimChars, hdrop]
    exact h.ne_empty (h.trimmed ▸ hempty)
  rw [ofBytes?, Utf8.decode?_encode]
  simp only [if_neg hblank, h.trimmed]

/-- The first line is read as it is, and the reader goes on behind it. -/
lemma Line.all_encode_cons {line : String} (h : IsLine line) (bytes : List UInt8) :
    ∃ size, all (Utf8.encode (line ++ "\n") ++ bytes) = ⟨some line, size⟩ :: all bytes := by
  have hread := Line.ofBytes?_encode h (0 + (Utf8.encode line).length + 1)
  refine ⟨0 + (Utf8.encode line).length + 1, ?_⟩
  rw [Utf8.encode_append_lf, List.append_assoc, all,
    allFrom_append _ _ (lf_notMem_encode h.unbroken), List.singleton_append, allFrom, if_pos rfl,
    List.append_nil, List.reverse_reverse, hread]
  rfl

/-- Lines are read back as they are, whatever bytes come behind them. -/
lemma Line.all_encode_unlines {lines : List String} (h : ∀ line ∈ lines, IsLine line)
    (bytes : List UInt8) :
    (all (Utf8.encode (unlines lines) ++ bytes)).map (·.text) =
      lines.map some ++ (all bytes).map (·.text) := by
  induction lines with
  | nil => rfl
  | cons line lines ih =>
    rw [List.forall_mem_cons] at h
    obtain ⟨size, hall⟩ := all_encode_cons h.1 (Utf8.encode (unlines lines) ++ bytes)
    rw [unlines_cons, Utf8.encode_append, List.append_assoc, hall]
    simp [ih h.2]

/-! ### What is kept of them -/

namespace Line

/-- What a reader keeps of the bytes of a line: nothing if they are blank, and else its text, if it
has one. -/
def textOf? (bytes : List UInt8) : Option (Option String) :=
  match Utf8.decode? bytes with
  | none => some none
  | some text => if text.toList.all isBlank then none else some (some (trim text))

lemma map_text_ofBytes? (size : Nat) (bytes : List UInt8) :
    (ofBytes? size bytes).map (·.text) = textOf? bytes := by
  simp only [ofBytes?, textOf?]
  cases Utf8.decode? bytes with
  | none => rfl
  | some text =>
    dsimp only
    split_ifs <;> rfl

lemma textOf?_encode (text : String) :
    textOf? (Utf8.encode text) =
      if text.toList.all isBlank then none else some (some (trim text)) := by
  rw [textOf?, Utf8.decode?_encode]

lemma texts_allFrom_eq (size : Nat) (held bytes : List UInt8) :
    (allFrom size held bytes).map (·.text) =
      (bytes.splitOnPPrepend (· == 0x0A) held).filterMap textOf? := by
  induction bytes generalizing size held with
  | nil =>
    have hline := map_text_ofBytes? size held.reverse
    simp only [allFrom, List.splitOnPPrepend_nil, List.filterMap_cons, List.filterMap_nil]
    split_ifs with hheld
    · rw [List.isEmpty_iff] at hheld
      subst hheld
      rfl
    · rw [← hline]
      cases ofBytes? size held.reverse <;> rfl
  | cons b bytes ih =>
    simp only [allFrom, List.splitOnPPrepend_cons_eq_if, beq_iff_eq]
    split_ifs with hlf
    · have hline := map_text_ofBytes? (size + 1) held.reverse
      rw [List.filterMap_cons, ← hline]
      cases ofBytes? (size + 1) held.reverse with
      | none => exact ih _ _
      | some line => exact congrArg (line.text :: ·) (ih 0 [])
    · exact ih _ _

/-- A reader goes from line to line, and keeps of each what `textOf?` says. -/
lemma texts_all (bytes : List UInt8) :
    (all bytes).map (·.text) = (bytes.splitOn 0x0A).filterMap textOf? :=
  texts_allFrom_eq 0 [] bytes

end Line

/-! ### What follows a line -/

/-- Whether a byte string ends with a line, so that what follows it begins a new one. -/
def EndsWithLine (bytes : List UInt8) : Prop :=
  bytes = [] ∨ ∃ front, bytes = front ++ [0x0A]

namespace Line

lemma size_of_ofBytes? {size : Nat} {bytes : List UInt8} {line : Line}
    (h : ofBytes? size bytes = some line) : line.size = size := by
  simp only [ofBytes?] at h
  cases hdecode : Utf8.decode? bytes with
  | none =>
    simp only [hdecode, Option.some.injEq] at h
    exact h ▸ rfl
  | some text =>
    simp only [hdecode, Option.ite_none_left_eq_some, Option.some.injEq] at h
    exact h.2 ▸ rfl

/-- The number of bytes that reading these lines takes. -/
def totalSize : List Line → Nat
  | [] => 0
  | line :: lines => line.size + totalSize lines

/-- Lines take no more bytes than there are. -/
lemma totalSize_allFrom_le (size : Nat) (held bytes : List UInt8) :
    totalSize (allFrom size held bytes) ≤ size + bytes.length := by
  induction bytes generalizing size held with
  | nil =>
    simp only [allFrom]
    split
    · exact Nat.zero_le _
    · cases hline : ofBytes? size held.reverse with
      | none => exact Nat.zero_le _
      | some line => simp [totalSize, size_of_ofBytes? hline]
  | cons b bytes ih =>
    simp only [allFrom]
    split
    · cases hline : ofBytes? (size + 1) held.reverse with
      | none =>
        have hrest := ih (size + 1) []
        simp only [List.length_cons]
        omega
      | some line =>
        have hrest := ih 0 []
        have hsize := size_of_ofBytes? hline
        simp only [totalSize, List.length_cons]
        omega
    · have hrest := ih (size + 1) (b :: held)
      simp only [List.length_cons]
      omega

lemma allFrom_append_lf (size : Nat) (held bytes more : List UInt8) :
    ∃ size', allFrom size held (bytes ++ 0x0A :: more) =
      allFrom size held (bytes ++ [0x0A]) ++ allFrom size' [] more := by
  induction bytes generalizing size held with
  | nil =>
    simp only [List.nil_append, allFrom, if_true]
    cases ofBytes? (size + 1) held.reverse with
    | none => exact ⟨size + 1, rfl⟩
    | some line => exact ⟨0, rfl⟩
  | cons b bytes ih =>
    simp only [List.cons_append, allFrom]
    split
    · cases ofBytes? (size + 1) held.reverse with
      | none => exact ih _ _
      | some line =>
        obtain ⟨size', hrest⟩ := ih 0 []
        exact ⟨size', congrArg (line :: ·) hrest⟩
    · exact ih _ _

/-- The lines of a byte string that ends with a line stay what they are, whatever comes behind. -/
lemma all_append {bytes : List UInt8} (h : EndsWithLine bytes) (more : List UInt8) :
    ∃ size, all (bytes ++ more) = all bytes ++ allFrom size [] more := by
  rcases h with rfl | ⟨front, rfl⟩
  · exact ⟨0, rfl⟩
  · simpa only [all, List.append_assoc, List.singleton_append] using
      allFrom_append_lf 0 [] front more

end Line

end Jury.Control
